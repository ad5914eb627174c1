import Mathlib.Data.List.TakeWhile
import MarketingOS.Utils.Web

/-!
# Every hop is pinned

Whatever the resolver answers and whatever the servers send back, each request of a fetch goes to
an address of the answer of its own lookup, none of which is blocked.
-/
namespace MarketingOS.Web

variable {lib : UrlLibrary}

/-! ## Resolution -/

/-- Of an answer that is accepted no address is blocked, and those that are returned are in it. -/
theorem publicAddresses_some {infos : List String} {addrs : List IpAddress}
    (accepted : publicAddresses lib infos = some addrs) :
    (∀ entry ∈ infos, ∀ ip, lib.ipAddress entry = some ip → isBlockedIp ip = false) ∧
      ∀ ip ∈ addrs, ∃ entry ∈ infos, lib.ipAddress entry = some ip := by
  induction infos generalizing addrs with
  | nil =>
    obtain rfl := Option.some.inj accepted
    exact ⟨by simp, by simp⟩
  | cons entry rest ih =>
    rw [publicAddresses] at accepted
    cases read : lib.ipAddress entry with
    | none =>
      rw [read] at accepted
      obtain ⟨open', listed⟩ := ih accepted
      refine ⟨List.forall_mem_cons.mpr ⟨fun ip same => ?_, open'⟩, fun ip inside => ?_⟩
      · rw [read] at same
        cases same
      · obtain ⟨other, there, same⟩ := listed ip inside
        exact ⟨other, List.mem_cons_of_mem _ there, same⟩
    | some first =>
      simp only [read] at accepted
      split at accepted
      · cases accepted
      · next allowed =>
        obtain ⟨later, accept, rfl⟩ := Option.map_eq_some_iff.mp accepted
        obtain ⟨open', listed⟩ := ih accept
        refine ⟨List.forall_mem_cons.mpr ⟨fun ip same => ?_, open'⟩, fun ip inside => ?_⟩
        · rw [read] at same
          obtain rfl := Option.some.inj same
          simpa using allowed
        · rcases List.mem_cons.mp inside with rfl | inside
          · exact ⟨entry, List.mem_cons_self, read⟩
          · obtain ⟨other, there, same⟩ := listed ip inside
            exact ⟨other, List.mem_cons_of_mem _ there, same⟩

/-- The literal of a resolution is that of an address of the answer, none of which is blocked. -/
theorem resolvePublicIp_some {infos : Option (List String)} {literal : String}
    (resolved : resolvePublicIp lib infos = some literal) :
    ∃ answer, infos = some answer ∧
      (∀ entry ∈ answer, ∀ ip, lib.ipAddress entry = some ip → isBlockedIp ip = false) ∧
      ∃ entry ∈ answer, ∃ ip, lib.ipAddress entry = some ip ∧ ip.text = literal := by
  cases infos with
  | none => cases resolved
  | some answer =>
    simp only [resolvePublicIp] at resolved
    split at resolved
    · cases resolved
    · cases accepted : publicAddresses lib answer with
      | none =>
        rw [accepted] at resolved
        cases resolved
      | some addrs =>
        simp only [accepted] at resolved
        obtain ⟨allowed, listed⟩ := publicAddresses_some accepted
        have chosen : ∃ ip ∈ addrs, ip.text = literal := by
          split at resolved
          · next ip four =>
            exact ⟨ip, List.mem_of_find?_eq_some four, Option.some.inj resolved⟩
          · obtain ⟨ip, first, same⟩ := Option.map_eq_some_iff.mp resolved
            exact ⟨ip, List.mem_of_mem_head? first, same⟩
        obtain ⟨ip, inside, same⟩ := chosen
        obtain ⟨entry, there, read⟩ := listed ip inside
        exact ⟨answer, rfl, allowed, entry, there, ip, read, same⟩

/-! ## The target of a URL -/

/-- The network location of a URL: between the two slashes and the next delimiter. -/
def authority (url : List Char) : List Char :=
  ((url.dropWhile fun c => c ≠ ':').drop 3).takeWhile fun c => c ≠ '/' ∧ c ≠ '?' ∧ c ≠ '#'

/-- The host a client connects to: without the user information, the brackets and the port. -/
def target (url : String) : String :=
  let host := ((authority url.toList).reverse.takeWhile fun c => c ≠ '@').reverse
  match host with
  | '[' :: rest => String.ofList (rest.takeWhile fun c => c ≠ ']')
  | _ => String.ofList (host.takeWhile fun c => c ≠ ':')

/-- A character that ends no part of a network location. -/
def Plain (c : Char) : Prop := c ∉ ['/', '?', '#', '@', '[', ']']

/-- A pinned URL is its scheme, its network location and a path. -/
theorem urlunparse_shape {path : String} (named : path ≠ "") (scheme netloc params query : String) :
    ∃ tail, (urlunparse scheme netloc path params query).toList =
      scheme.toList ++ ':' :: '/' :: '/' :: (netloc.toList ++ '/' :: tail) := by
  have slashed (url : String) (filled : url ≠ "") : ∃ tail,
      (if url ≠ "" ∧ url.toList.head? ≠ some '/' then "/" ++ url else url).toList =
        '/' :: tail := by
    by_cases front : url.toList.head? = some '/'
    · obtain ⟨tail, shape⟩ := List.head?_eq_some_iff.mp front
      exact ⟨tail, by rw [if_neg (fun both => both.2 front), shape]⟩
    · exact ⟨url.toList, by rw [if_pos ⟨filled, front⟩, String.toList_append]; rfl⟩
  have filled : (if params = "" then path else path ++ ";" ++ params) ≠ "" := by
    split
    · exact named
    · intro empty
      have chars := congrArg String.toList empty
      simp at chars
  obtain ⟨tail, shape⟩ := slashed _ filled
  unfold urlunparse
  simp only
  split
  · exact ⟨tail, by simp [shape]⟩
  · exact ⟨tail ++ '?' :: query.toList, by simp [shape]⟩

/-- The network location of a pinned URL is the one it is made of. -/
theorem authority_urlunparse {scheme netloc path : String} (known : ':' ∉ scheme.toList)
    (whole : ∀ c ∈ netloc.toList, c ≠ '/' ∧ c ≠ '?' ∧ c ≠ '#') (named : path ≠ "")
    (params query : String) :
    authority (urlunparse scheme netloc path params query).toList = netloc.toList := by
  obtain ⟨tail, shape⟩ := urlunparse_shape named scheme netloc params query
  have past : (urlunparse scheme netloc path params query).toList.dropWhile (fun c => c ≠ ':') =
      ':' :: '/' :: '/' :: (netloc.toList ++ '/' :: tail) := by
    rw [shape, List.dropWhile_append_of_pos]
    · rfl
    · intro c inside
      have apart : c ≠ ':' := fun same => known (same ▸ inside)
      exact decide_eq_true apart
  rw [authority, past]
  show (netloc.toList ++ '/' :: tail).takeWhile (fun c => c ≠ '/' ∧ c ≠ '?' ∧ c ≠ '#') = _
  rw [List.takeWhile_append_of_pos]
  · simp
  · intro c inside
    exact decide_eq_true (whole c inside)

/-- The text after a literal holds no delimiter. -/
theorem plain_portSuffix (port : Option Nat) : ∀ c ∈ (portSuffix port).toList, Plain c := by
  unfold portSuffix
  split
  · simp
  · intro c inside
    rw [String.toList_append, List.mem_append] at inside
    rcases inside with colon | digit
    · have same : c = ':' := by simpa using colon
      rw [same, Plain]
      decide
    · have written : c ∈ Nat.toDigits 10 (port.getD 0) := by simpa using digit
      have numeral := Nat.isDigit_of_mem_toDigits (by decide) (by decide) written
      intro delimiter
      simp only [List.mem_cons, List.not_mem_nil, or_false] at delimiter
      rcases delimiter with rfl | rfl | rfl | rfl | rfl | rfl <;> exact absurd numeral (by decide)

/-- It is empty or begins with a colon. -/
theorem portSuffix_head (port : Option Nat) :
    (portSuffix port).toList = [] ∨ ∃ tail, (portSuffix port).toList = ':' :: tail := by
  unfold portSuffix
  split
  · exact .inl rfl
  · exact .inr ⟨(toString (port.getD 0)).toList, by rw [String.toList_append]; rfl⟩

/-- A client connects to the literal in the URL. -/
theorem target_pinned {scheme path ip : String} (known : ':' ∉ scheme.toList)
    (plain : ∀ c ∈ ip.toList, Plain c) (named : path ≠ "") (port : Option Nat)
    (params query : String) :
    target (urlunparse scheme (netloc ip port) path params query) = ip := by
  have chars : (netloc ip port).toList =
      (hostLiteral ip).toList ++ (portSuffix port).toList := String.toList_append
  have bracketed (c : Char) (inside : c ∈ (hostLiteral ip).toList) :
      Plain c ∨ c = '[' ∨ c = ']' := by
    unfold hostLiteral at inside
    split at inside
    · simp only [String.toList_append, List.mem_append] at inside
      rcases inside with (front | inside) | back
      · exact .inr (.inl (by simpa using front))
      · exact .inl (plain c inside)
      · exact .inr (.inr (by simpa using back))
    · exact .inl (plain c inside)
  have whole : ∀ c ∈ (netloc ip port).toList, (c ≠ '/' ∧ c ≠ '?' ∧ c ≠ '#') ∧ c ≠ '@' := by
    intro c inside
    rw [chars, List.mem_append] at inside
    have shape : Plain c ∨ c = '[' ∨ c = ']' :=
      inside.elim (bracketed c) fun port' => .inl (plain_portSuffix port c port')
    rcases shape with ordinary | rfl | rfl
    · simp only [Plain, List.mem_cons, List.not_mem_nil, or_false, not_or] at ordinary
      exact ⟨⟨ordinary.1, ordinary.2.1, ordinary.2.2.1⟩, ordinary.2.2.2.1⟩
    · decide
    · decide
  have located := authority_urlunparse known (fun c inside => (whole c inside).1) named params query
  have noUser : ((netloc ip port).toList.reverse.takeWhile fun c => c ≠ '@').reverse =
      (netloc ip port).toList := by
    rw [List.takeWhile_eq_self_iff.mpr, List.reverse_reverse]
    intro c inside
    exact decide_eq_true (whole c (List.mem_reverse.mp inside)).2
  unfold target
  simp only [located, noUser]
  by_cases colon : ':' ∈ ip.toList
  · have shape : (netloc ip port).toList = '[' :: (ip.toList ++ ']' :: (portSuffix port).toList) := by
      simp [chars, hostLiteral, colon]
    have inner : (ip.toList ++ ']' :: (portSuffix port).toList).takeWhile (fun c => c ≠ ']') =
        ip.toList := by
      rw [List.takeWhile_append_of_pos]
      · simp
      · intro c inside
        have ordinary := plain c inside
        simp only [Plain, List.mem_cons, List.not_mem_nil, or_false, not_or] at ordinary
        exact decide_eq_true ordinary.2.2.2.2.2
    rw [shape]
    simp only [inner, String.ofList_toList]
  · have shape : (netloc ip port).toList = ip.toList ++ (portSuffix port).toList := by
      simp [chars, hostLiteral, colon]
    have outer : (ip.toList ++ (portSuffix port).toList).takeWhile (fun c => c ≠ ':') =
        ip.toList := by
      rw [List.takeWhile_append_of_pos]
      · rcases portSuffix_head port with empty | ⟨tail, head⟩
        · simp [empty]
        · simp [head]
      · intro c inside
        have apart : c ≠ ':' := fun same => colon (same ▸ inside)
        exact decide_eq_true apart
    rw [shape]
    split
    · next rest front =>
      have listed : '[' ∈ ip.toList ++ (portSuffix port).toList := front ▸ List.mem_cons_self
      have ordinary := (List.mem_append.mp listed).elim (plain '[') (plain_portSuffix port '[')
      exact absurd ordinary (by rw [Plain]; decide)
    · simp only [outer, String.ofList_toList]

/-! ## Hops -/

/-- What holds of the request of a hop: it goes to an address of the answer of its own lookup, in
which none is blocked, and names the host of the hop. -/
def Pinned (lib : UrlLibrary) (infos : String → Option (List String)) (current : String)
    (request : Request) : Prop :=
  ∃ parsed hostname answer ip, lib.urlparse current = some parsed ∧
    (parsed.scheme = "http" ∨ parsed.scheme = "https") ∧
    (parsed.scheme ++ "://").toList <+: request.url.toList ∧
    parsed.hostname = some hostname ∧ infos hostname = some answer ∧
    (∃ entry ∈ answer, lib.ipAddress entry = some ip) ∧
    (∀ entry ∈ answer, ∀ other, lib.ipAddress entry = some other → isBlockedIp other = false) ∧
    ((∀ c ∈ ip.text.toList, Plain c) → target request.url = ip.text) ∧
    request.host = hostname ∧ request.sniHostname = hostname

/-- The request of a hop is pinned. -/
theorem pinned_of_hopRequest {infos : String → Option (List String)} {current : String}
    {request : Request} (made : hopRequest lib infos current = .ok (some request)) :
    Pinned lib infos current request := by
  unfold hopRequest at made
  cases parse : lib.urlparse current with
  | none =>
    rw [parse] at made
    cases made
  | some parsed =>
    simp only [parse] at made
    split at made
    · cases made
    · next web =>
      have scheme : parsed.scheme = "http" ∨ parsed.scheme = "https" := by
        by_contra neither
        exact web (not_or.mp neither)
      split at made
      · cases made
      · next hostname named =>
        split at made
        · cases made
        · split at made
          · cases made
          · next literal resolved =>
            split at made
            · cases made
            · next port read =>
              obtain rfl := Option.some.inj (Except.ok.inj made)
              obtain ⟨answer, looked, allowed, entry, inside, ip, address, rfl⟩ :=
                resolvePublicIp_some resolved
              have path : (if parsed.path = "" then "/" else parsed.path) ≠ "" := by
                split
                · decide
                · assumption
              have known : ':' ∉ parsed.scheme.toList := by
                rcases scheme with same | same
                · rw [same]
                  decide
                · rw [same]
                  decide
              obtain ⟨tail, shape⟩ := urlunparse_shape path parsed.scheme (netloc ip.text port)
                parsed.params parsed.query
              have front : (parsed.scheme ++ "://").toList <+: (urlunparse parsed.scheme
                  (netloc ip.text port) (if parsed.path = "" then "/" else parsed.path)
                  parsed.params parsed.query).toList :=
                ⟨(netloc ip.text port).toList ++ '/' :: tail, by rw [shape]; simp⟩
              exact ⟨parsed, hostname, answer, ip, parse, scheme, front, named, looked,
                ⟨entry, inside, address⟩, allowed,
                fun plain => target_pinned known plain path port _ _, rfl, rfl⟩

/-- The hops of a fetch from a number on. -/
theorem getFrom_pinned (network : Network) (left hop : Nat) (current : String) :
    (getFrom lib network left hop current).2.length ≤ left ∧
      ∀ (i : Nat) (made : String × Request),
        (getFrom lib network left hop current).2[i]? = some made →
          Pinned lib (network.lookup (hop + i)) made.1 made.2 := by
  induction left generalizing hop current with
  | zero => exact ⟨Nat.le_refl 0, fun i made at' => (by cases at')⟩
  | succ left ih =>
    rw [getFrom]
    cases hopping : hopRequest lib (network.lookup hop) current with
    | error exc => exact ⟨Nat.zero_le _, fun i made at' => (by cases at')⟩
    | ok request =>
      cases request with
      | none => exact ⟨Nat.zero_le _, fun i made at' => (by cases at')⟩
      | some request =>
        have first := pinned_of_hopRequest hopping
        have one {result : Outcome (Option String)} :
            ((result, [(current, request)]) :
              Outcome (Option String) × List (String × Request)).2.length ≤ left + 1 ∧
            ∀ (i : Nat) (made : String × Request),
              [(current, request)][i]? = some made →
                Pinned lib (network.lookup (hop + i)) made.1 made.2 := by
          refine ⟨Nat.succ_le_succ (Nat.zero_le _), fun i made at' => ?_⟩
          cases i with
          | zero =>
            obtain rfl := Option.some.inj at'
            exact first
          | succ i => cases at'
        simp only
        split
        · exact one
        · exact one
        · split
          · split
            · exact one
            · split
              · exact one
              · split
                · exact one
                · next location _ next' joined =>
                  obtain ⟨few, later⟩ := ih (hop + 1) next'
                  refine ⟨Nat.succ_le_succ few, fun i made at' => ?_⟩
                  cases i with
                  | zero =>
                    obtain rfl := Option.some.inj at'
                    exact first
                  | succ i =>
                    have moved := later i made at'
                    rwa [Nat.add_right_comm, Nat.add_assoc] at moved
          · split
            · exact one
            · exact one

/-- **Every hop is pinned.** For every start URL, resolver and server, a fetch makes six requests at
most, and each is pinned to the answer of the lookup of its own hop. -/
theorem every_hop_pinned (lib : UrlLibrary) (network : Network) (url : String) :
    (get lib network url).2.length ≤ 6 ∧
      ∀ (i : Nat) (current : String) (request : Request),
        (get lib network url).2[i]? = some (current, request) →
          Pinned lib (network.lookup i) current request := by
  obtain ⟨few, pinned⟩ := @getFrom_pinned lib network (maxRedirects + 1) 0 url
  refine ⟨few, fun i current request at' => ?_⟩
  have made := pinned i (current, request) at'
  rwa [Nat.zero_add] at made

end MarketingOS.Web
