import Mathlib.Tactic.Linarith
import MarketingOS.Verif.MemoryRateLimit

/-! # The shared limiter is exact

A sorted set loses the hits its script trims and, when its key expires, all of them. The time to
live is longer than the window and starts again with every admitted hit, so only hits that are out
of every window still to come are lost, and the server answers every call as the limiter that drops
nothing. -/
namespace MarketingOS

open SlidingWindow

variable {limits : ScopedKey → Limit Seconds} {history : ScopedKey → List Seconds}
  {now last : Seconds}

namespace Redis

variable {db : Redis} {key name : String}

/-- A set without the members up to a bound; without members there is none. -/
def trim (bound : Seconds) : Option SortedSet → Option SortedSet
  | none => none
  | some set =>
    let kept := set.members.filter fun _ score => bound < score
    if kept.entries.isEmpty then none else some { set with members := kept }

/-- The members of a set, of which there may be none. -/
def membersOf (set : Option SortedSet) : Dict String Seconds :=
  (set.map SortedSet.members).getD .empty

/-- A set with one more member and a new expiry, unless it expires at once. -/
def renew (now : Seconds) (ttl : Int) (member : String) (set : Option SortedSet) :
    Option SortedSet :=
  if ttl ≤ 0 then none else some ⟨(membersOf set).set member now, some (now + ttl)⟩

/-- The sets after the members up to a bound are removed. -/
theorem get_zremrangebyscore (db : Redis) (now : Seconds) (key name : String) (bound : Seconds) :
    (db.zremrangebyscore now key bound).get name =
      if name = key then trim bound (db.live now key) else db.get name := by
  unfold zremrangebyscore trim
  cases db.live now key with
  | none => rw [Dict.get_erase]
  | some set =>
    simp only
    split
    · rw [Dict.get_erase]
    · rw [Dict.get_set]

/-- What is left of a live set is live. -/
theorem live_zremrangebyscore (db : Redis) (now : Seconds) (key : String) (bound : Seconds) :
    (db.zremrangebyscore now key bound).live now key = trim bound (db.live now key) := by
  rw [live, get_zremrangebyscore, if_pos rfl]
  cases found : db.live now key with
  | none => rfl
  | some set =>
    have alive : set.expiresAt.all (now < ·) = true :=
      (Option.filter_eq_some_iff.mp found).2
    simp only [trim]
    split
    · rfl
    · simp [Option.filter_some, alive]

/-- The sets after a member is added and the expiry is set. -/
theorem get_expire_zadd (db : Redis) (now : Seconds) (key name : String) (member : String)
    (ttl : Int) :
    ((db.zadd now key now member).expire now key ttl).get name =
      if name = key then renew now ttl member (db.live now key) else db.get name := by
  have added : (db.zadd now key now member).live now key =
        some ⟨(membersOf (db.live now key)).set member now, (db.live now key).bind (·.expiresAt)⟩ ∧
      (db.zadd now key now member).get name = if name = key then
        some ⟨(membersOf (db.live now key)).set member now, (db.live now key).bind (·.expiresAt)⟩
        else db.get name := by
    cases found : db.live now key with
    | none =>
      simp only [zadd, found]
      exact ⟨by simp [live, membersOf, Option.filter_some], by simp [membersOf, Dict.get_set]⟩
    | some set =>
      have alive : set.expiresAt.all (now < ·) = true :=
        (Option.filter_eq_some_iff.mp found).2
      simp only [zadd, found]
      exact ⟨by simp [live, membersOf, Option.filter_some, alive], by simp [membersOf, Dict.get_set]⟩
  unfold expire renew
  simp only [added.1]
  split
  · rw [Dict.get_erase, added.2]
    split <;> rfl
  · rw [Dict.get_set, added.2]
    split <;> rfl

/-- The members of a set that is left of another are members of it. -/
theorem membersOf_trim {bound : Seconds} {set : Option SortedSet} {entry : String × Seconds}
    (inside : entry ∈ (membersOf (trim bound set)).entries) :
    entry ∈ (membersOf set).entries := by
  cases set with
  | none => exact inside
  | some set =>
    simp only [trim] at inside
    split at inside
    · cases inside
    · exact List.mem_of_mem_filter inside

/-- The scores that are left are those past the bound. -/
theorem values_trim (bound : Seconds) (set : Option SortedSet) :
    (membersOf (trim bound set)).values = (membersOf set).values.filter (bound < ·) := by
  cases set with
  | none => rfl
  | some set =>
    have kept : (set.members.filter fun _ score => bound < score).values =
        set.members.values.filter (bound < ·) := by
      simp only [Dict.values, Dict.filter, List.filter_map]
      rfl
    simp only [trim]
    split
    · rename_i bare
      have none : (set.members.filter fun _ score => bound < score).entries = [] := by
        simpa using bare
      show ([] : List Seconds) = set.members.values.filter (bound < ·)
      rw [← kept, Dict.values, none]
      rfl
    · exact kept

end Redis

namespace RedisRateLimitStore

open Redis

variable {db : Redis}

/-- A set holds the hits of its key, less some that are out of the windows to come, and does not
expire before all of them are. -/
structure Holds (limit : Limit Seconds) (last : Seconds) (hits : List Seconds)
    (set : Option SortedSet) : Prop where
  covers : Covers limit.seconds last hits (membersOf set).values
  outlives : ∀ expiry, set.bind (·.expiresAt) = some expiry →
    ∀ hit ∈ hits, hit + ⌈limit.seconds⌉ + 1 ≤ expiry

variable {limit : Limit Seconds} {hits : List Seconds} {set : Option SortedSet}

/-- No set holds the hits of a key that has none. -/
theorem Holds.bare (limit : Limit Seconds) (last : Seconds) : Holds limit last [] none :=
  ⟨Covers.refl _ _ _, fun _ _ _ inside => absurd inside List.not_mem_nil⟩

/-- What a set holds, it holds later. -/
theorem Holds.later (holds : Holds limit last hits set) (order : last ≤ now) :
    Holds limit now hits set :=
  ⟨holds.covers.later order, holds.outlives⟩

/-- A set that has expired had only dead hits. -/
theorem Holds.live {key : String} (holds : Holds limit now hits (db.get key)) :
    Holds limit now hits (db.live now key) := by
  cases found : db.get key with
  | none =>
    rw [found] at holds
    simpa [Redis.live, found] using holds
  | some set =>
    rw [found] at holds
    by_cases alive : set.expiresAt.all (now < ·) = true
    · simpa [Redis.live, found, Option.filter_some, alive] using holds
    · have gone : db.live now key = none := by
        simpa [Redis.live, found, Option.filter_some] using alive
      rw [gone]
      refine ⟨Covers.nil ?_, by simp⟩
      intro hit inside
      cases expiry : set.expiresAt with
      | none => simp [expiry] at alive
      | some expiry' =>
        have passed : expiry' ≤ now := by simpa [expiry] using alive
        have outlived := holds.outlives expiry' (by simpa using expiry) hit inside
        have ceiling := Int.le_ceil limit.seconds
        linarith

/-- What is left of a set within the window. -/
theorem Holds.trim (holds : Holds limit now hits set) (sorted : hits.Pairwise (· ≤ ·)) :
    Holds limit now hits (Redis.trim (now - limit.seconds) set) := by
  constructor
  · rw [values_trim, ← dropWhile_eq_filter (holds.covers.sorted sorted)]
    exact holds.covers.expire
  · intro expiry found
    apply holds.outlives expiry
    cases set with
    | none => exact found
    | some set =>
      simp only [Redis.trim] at found
      split at found
      · cases found
      · exact found

/-- A set with a new hit, whose member it does not have. -/
theorem Holds.renew {member : String} (holds : Holds limit now hits set)
    (past : ∀ hit ∈ hits, hit ≤ now)
    (fresh : member ∉ (membersOf set).entries.map Prod.fst) :
    Holds limit now (hits ++ [now]) (Redis.renew now (⌈limit.seconds⌉ + 1) member set) := by
  have ceiling := Int.le_ceil limit.seconds
  have before : ∀ hit ∈ hits ++ [now], hit ≤ now := by
    intro hit inside
    rcases List.mem_append.mp inside with early | self
    · exact past hit early
    · exact (List.mem_singleton.mp self).le
  unfold Redis.renew
  split
  · -- A span of a second and more below zero: no hit is ever in a window.
    rename_i short
    refine ⟨Covers.nil ?_, by simp⟩
    intro hit inside
    have negative : (⌈limit.seconds⌉ : ℚ) + 1 ≤ 0 := by exact_mod_cast short
    have early := before hit inside
    linarith
  · constructor
    · have values : (membersOf (some ⟨(membersOf set).set member now,
          some (now + ((⌈limit.seconds⌉ + 1 : ℤ) : ℚ))⟩)).values = (membersOf set).values ++ [now] := by
        simp only [membersOf, Option.map_some, Option.getD_some, Dict.values] at fresh ⊢
        rw [Dict.entries_set_new now fresh]
        simp
      rw [values]
      exact holds.covers.append now
    · intro expiry found hit inside
      have same : now + ((⌈limit.seconds⌉ + 1 : ℤ) : ℚ) = expiry := by simpa using found
      have early := before hit inside
      push_cast at same
      linarith

/-- The number of members of a live set. -/
theorem zcard_eq (db : Redis) (now : Seconds) (key : String) :
    db.zcard now key = (membersOf (db.live now key)).values.length := by
  unfold zcard membersOf
  cases db.live now key <;> simp [Dict.values, Dict.empty]

/-- The script admits a hit its window has room for. -/
theorem slidingWindow_admits {name : String} (member : String) (sorted : hits.Pairwise (· ≤ ·))
    (past : ∀ hit ∈ hits, hit ≤ now) (holds : Holds limit now hits (db.get name)) :
    (slidingWindow db name now limit.seconds limit.times member).2 =
      if (window limit.seconds now hits).length < limit.times then 1 else 0 := by
  have live := holds.live
  have count : (db.zremrangebyscore now name (now - limit.seconds)).zcard now name =
      (window limit.seconds now hits).length := by
    rw [zcard_eq, live_zremrangebyscore, values_trim,
      ← dropWhile_eq_filter (live.covers.sorted sorted), live.covers.expire_eq_window sorted past]
  unfold slidingWindow
  simp only [count]
  by_cases room : (window limit.seconds now hits).length < limit.times
  · simp [room, Nat.not_le.mpr room]
  · simp [room, Nat.not_lt.mp room]

/-- The script writes to its own key: what is left of the set, with the hit when it is admitted. -/
theorem get_slidingWindow (db : Redis) (name other : String) (now seconds : Seconds) (times : Nat)
    (member : String) :
    (slidingWindow db name now seconds times member).1.get other =
      if other = name then
        if (slidingWindow db name now seconds times member).2 = 1 then
          renew now (⌈seconds⌉ + 1) member (trim (now - seconds) (db.live now name))
        else trim (now - seconds) (db.live now name)
      else db.get other := by
  unfold slidingWindow
  by_cases full : times ≤ (db.zremrangebyscore now name (now - seconds)).zcard now name
  · simp [full, get_zremrangebyscore]
  · simp only [full, ↓reduceIte, get_expire_zadd, live_zremrangebyscore, get_zremrangebyscore]
    split <;> rfl

/-- No set has one of the members still to come. -/
def Fresh (members : List String) (db : Redis) : Prop :=
  ∀ name, ∀ member ∈ members, member ∉ (membersOf (db.get name)).entries.map Prod.fst

/-- The members of a live set are those of the set. -/
theorem membersOf_live {name : String} {entry : String × Seconds}
    (inside : entry ∈ (membersOf (db.live now name)).entries) :
    entry ∈ (membersOf (db.get name)).entries := by
  unfold Redis.live at inside
  cases found : db.get name with
  | none => simpa [found] using inside
  | some set =>
    rw [found, Option.filter_some] at inside
    split at inside
    · exact inside
    · cases inside

/-- The members of a set that is left are members it had. -/
theorem mem_trim_live {name member : String} {bound : Seconds}
    (inside : member ∈ (membersOf (trim bound (db.live now name))).entries.map Prod.fst) :
    member ∈ (membersOf (db.get name)).entries.map Prod.fst := by
  obtain ⟨entry, member', rfl⟩ := List.mem_map.mp inside
  exact List.mem_map_of_mem (membersOf_live (membersOf_trim member'))

/-- The script adds no member but its own. -/
theorem Fresh.slidingWindow {members : List String} {member : String}
    (fresh : Fresh (member :: members) db) (distinct : (member :: members).Nodup) (name : String)
    (now seconds : Seconds) (times : Nat) :
    Fresh members (slidingWindow db name now seconds times member).1 := by
  intro other token inside known
  have unknown := fresh other token (List.mem_cons_of_mem _ inside)
  have apart : token ≠ member := fun same => (List.nodup_cons.mp distinct).1 (same ▸ inside)
  rw [get_slidingWindow] at known
  split at known
  · rename_i same
    subst same
    split at known
    · unfold renew at known
      split at known
      · cases known
      · obtain ⟨score, found⟩ := Dict.mem_keys.mp known
        rw [membersOf, Option.map_some, Option.getD_some, Dict.get_set, if_neg apart] at found
        exact unknown (mem_trim_live (Dict.mem_keys.mpr ⟨score, found⟩))
    · exact unknown (mem_trim_live known)
  · exact unknown known

/-- Forgetting keys adds no member. -/
theorem Fresh.of_get {members : List String} {db' : Redis} (fresh : Fresh members db)
    (fewer : ∀ name, db'.get name = none ∨ db'.get name = db.get name) : Fresh members db' := by
  intro name member inside known
  obtain gone | same := fewer name
  · rw [gone] at known
    cases known
  · rw [same] at known
    exact fresh name member inside known

/-- The pairs the calls of a sequence name. -/
def named (calls : Calls) : List ScopedKey := calls.filterMap Call.key

/-- The server and the exact limiter, with the calls still to come. -/
inductive Related (limits : ScopedKey → Limit Seconds) (pairs : List ScopedKey) (calls : Calls)
    (db : Redis) (history : ScopedKey → List Seconds) : Prop where
  | at (last : Seconds) (ordered : Ordered last calls) (past : Past last history)
    (inside : ∀ pair ∈ named calls, pair ∈ pairs)
    (distinct : (calls.filterMap Call.token).Nodup) (fresh : Fresh (calls.filterMap Call.token) db)
    (holds : ∀ pair ∈ pairs, Holds (limits pair) last (history pair) (db.get (key pair)))

/-- Every key of the limiter has its prefix. -/
theorem prefix_key (pair : ScopedKey) :
    "ratelimit:".toList.isPrefixOf (key pair).toList = true := by
  simp [key, String.toList_append]

/-- The step lemma: a call is answered as by the exact limiter, and leaves the two related. -/
theorem related_step {pairs : List ScopedKey}
    (apart : ∀ pair ∈ pairs, ∀ other ∈ pairs, key pair = key other → pair = other)
    (call : Call ScopedKey Seconds String) (rest : Calls) (db : Redis)
    (history : ScopedKey → List Seconds) (related : Related limits pairs (call :: rest) db history) :
    ((backend limits).step db call).2 = ((exact limits).step history call).2 ∧
      Related limits pairs rest ((backend limits).step db call).1
        ((exact limits).step history call).1 := by
  obtain ⟨last, ordered, past, inside, distinct, fresh, holds⟩ := related
  cases call with
  | allow pair now token =>
    obtain ⟨order, later⟩ := ordered.allow
    have pastNow := past.later order
    have here : pair ∈ pairs := inside pair List.mem_cons_self
    have others : ∀ other ∈ named rest, other ∈ pairs := fun other member =>
      inside other (List.mem_cons_of_mem _ member)
    have held := (holds pair here).later order
    have left := held.live.trim (pastNow pair).1
    have unknown : token ∉ (membersOf (trim (now - (limits pair).seconds)
        (db.live now (key pair)))).entries.map Prod.fst := fun known =>
      fresh (key pair) token List.mem_cons_self (mem_trim_live known)
    have reply := slidingWindow_admits token (pastNow pair).1 (pastNow pair).2 held
    have rows := get_slidingWindow db (key pair) (key pair) now (limits pair).seconds
      (limits pair).times token
    have elsewhere : ∀ other ∈ pairs, other ≠ pair →
        (slidingWindow db (key pair) now (limits pair).seconds (limits pair).times token).1.get
          (key other) = db.get (key other) := by
      intro other member different
      rw [get_slidingWindow, if_neg fun same => different (apart other member pair here same)]
    have freshLater := Fresh.slidingWindow fresh distinct (key pair) now (limits pair).seconds
      (limits pair).times
    have distinctLater := (List.nodup_cons.mp distinct).2
    by_cases room : (window (limits pair).seconds now (history pair)).length < (limits pair).times
    · rw [if_pos room] at reply
      rw [reply, if_pos rfl, if_pos rfl] at rows
      rw [step_admitted room]
      refine ⟨by simp [backend, reply, answer], now, later, past.append order pair, others,
        distinctLater, freshLater, ?_⟩
      intro other member
      by_cases same : other = pair
      · subst same
        dsimp only
        rw [Function.update_self]
        exact rows.symm ▸ left.renew (pastNow other).2 unknown
      · dsimp only
        rw [Function.update_of_ne same]
        exact (elsewhere other member same).symm ▸ (holds other member).later order
    · rw [if_neg room] at reply
      rw [reply, if_pos rfl, if_neg (by decide)] at rows
      rw [step_refused room]
      refine ⟨by simp [backend, reply, answer], now, later, pastNow, others, distinctLater,
        freshLater, ?_⟩
      intro other member
      by_cases same : other = pair
      · subst same
        exact rows.symm ▸ left
      · exact (elsewhere other member same).symm ▸ (holds other member).later order
  | forget pair =>
    have here : pair ∈ pairs := inside pair List.mem_cons_self
    refine ⟨rfl, last, ordered, past.forget pair, fun other member =>
      inside other (List.mem_cons_of_mem _ member), distinct, ?_, ?_⟩
    · have same : Fresh (rest.filterMap Call.token) db := fresh
      apply same.of_get
      intro name
      simp only [backend, Dict.get_erase]
      split
      · exact .inl rfl
      · exact .inr rfl
    · intro other member
      simp only [backend, Dict.get_erase, exact]
      by_cases same : other = pair
      · subst same
        rw [if_pos rfl, Function.update_self]
        exact .bare _ _
      · rw [if_neg fun collide => same (apart other member pair here collide),
          Function.update_of_ne same]
        exact holds other member
  | reset =>
    refine ⟨rfl, last, ordered, past_nil, inside, distinct, ?_, ?_⟩
    · have same : Fresh (rest.filterMap Call.token) db := fresh
      apply same.of_get
      intro name
      simp only [backend, Dict.get_filter]
      cases db.get name with
      | none => exact .inl rfl
      | some set =>
        rw [Option.filter_some]
        split
        · exact .inr rfl
        · exact .inl rfl
    · intro pair member
      have gone : ((backend limits).step db .reset).1.get (key pair) = none := by
        simp only [backend, Dict.get_filter, prefix_key, Bool.not_true]
        cases db.get (key pair) <;> rfl
      rw [gone]
      exact .bare _ _

/-- The server answers every call as the exact limiter. -/
theorem trace_eq_exact {calls : Calls}
    (sorted : (calls.filterMap Call.clock).Pairwise (· ≤ ·))
    (members : (calls.filterMap Call.token).Nodup)
    (apart : ∀ pair ∈ named calls, ∀ other ∈ named calls, key pair = key other → pair = other) :
    (backend limits).trace .empty calls = (exact limits).trace (fun _ => []) calls := by
  obtain ⟨last, ordered⟩ := ordered_of_pairwise sorted
  apply Backend.trace_eq_of_related (Related limits (named calls)) (related_step apart)
  refine ⟨last, ordered, past_nil, fun _ member => member, members, ?_, fun pair _ => .bare _ _⟩
  intro name member _ known
  cases known

end RedisRateLimitStore

end MarketingOS
