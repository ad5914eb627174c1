import Mathlib.Data.Int.Order.Basic
import Mathlib.Logic.Encodable.Basic
import Mathlib.Logic.Equiv.List
import MarketingOS.Base.Machine
import MarketingOS.Services.Auth

/-!
# Revoked sessions

Runs of logins, logouts, purges and edits of users. A login token is accepted exactly while its
login stands: no logout named it, its user is active and its time has not come.
-/
namespace MarketingOS.Sessions

variable (security : Security)

/-- A login that succeeded: the session it stored and the claims of the token it returned. -/
structure Login where
  session : UserSession
  jti : String
  claims : Claims
deriving DecidableEq

/-- The login a call makes on a user's account. -/
def Login.ofCall (call : LoginCall) (userId : Uuid) : Login :=
  { session := AuthService.newSession security call userId
    jti := call.tokenId.hex
    claims := security.accessClaims userId none (some call.tokenId.hex) call.mintedAt }

/-- What a run did to sign someone in or out. -/
inductive Event where
  | login (made : Login)
  | logout (token : String)
deriving DecidableEq

/-- What happened from a login on. -/
def since (log : List Event) (made : Login) : List Event :=
  log.dropWhile fun event => decide (event ≠ .login made)

/-- A logout since a login was given a string that carries the login's claims. -/
def LoggedOut (log : List Event) (made : Login) : Prop :=
  ∃ token, .logout token ∈ since log made ∧ security.jwt.signed token = some made.claims

/-- A string carries no claims but those of a login that happened. -/
def Unforged (log : List Event) (token : String) : Prop :=
  ∀ claims, security.jwt.signed token = some claims →
    ∃ made, .login made ∈ log ∧ made.claims = claims

/-! ## The machine -/

/-- The rows, and the last reading of the clock. -/
structure World where
  tables : AuthTables
  clock : Timestamp

/-- One step: a request or a job that ran to its end. -/
inductive Step where
  | login (call : LoginCall)
  | logout (token : String) (now : Timestamp)
  | purge (now : Timestamp)
  | updateUser (userId : Uuid) (data : UserUpdate) (now : Timestamp)

/-- The instant a step reads first, and the one it reads last. -/
def Step.span : Step → Timestamp × Timestamp
  | .login call => (call.sessionAt, call.mintedAt)
  | .logout _ now => (now, now)
  | .purge now => (now, now)
  | .updateUser _ _ now => (now, now)

/-- The rows a step leaves; a request that raises leaves them as they were. -/
def Step.apply (t : AuthTables) : Step → AuthTables
  | .login call =>
    match AuthService.login security t call with
    | .ok (t', _, _) => t'
    | .error _ => t
  | .logout token now => AuthService.logout security t token now
  | .purge now => AuthService.purgeExpiredSessions t now
  | .updateUser userId data now =>
    match AuthService.updateUser t userId data now with
    | .ok t' => t'
    | .error _ => t

/-- Steps one after another, under a clock that does not run back. -/
def machine : Machine World Step where
  start s := s.tables.sessions = []
  next s step :=
    if s.clock ≤ step.span.1 ∧ step.span.1 ≤ step.span.2 then
      some ⟨step.apply security s.tables, step.span.2⟩
    else none

/-- What a step does to sign someone in or out. -/
def record (s : World) : Step → List Event
  | .login call =>
    match AuthService.login security s.tables call with
    | .ok (_, user, _) => [.login (.ofCall security call user.id)]
    | .error _ => []
  | .logout token _ => [.logout token]
  | _ => []

/-- The machine with its log of logins and logouts. -/
abbrev system : Machine (World × List Event) Step := (machine security).logged (record security)

/-- A new identifier is new, and no signature is forged. -/
def Trusted (s : World × List Event) : Step → Prop
  | .login call => ∀ made, .login made ∈ s.2 → made.jti ≠ call.tokenId.hex
  | .logout token _ => Unforged security s.2 token
  | _ => True

/-! ## What the operations do -/

variable {security}

/-- A digest names one identifier. -/
theorem tokenIdHash_inj {jti jti' : String} :
    security.tokenIdHash jti = security.tokenIdHash jti' ↔ jti = jti' :=
  security.sha256_injective.eq_iff

/-- What a login that succeeds leaves and returns. -/
theorem login_ok {t t' : AuthTables} {call : LoginCall} {user : User} {token : String}
    (done : AuthService.login security t call = .ok (t', user, token)) :
    ∃ account, t.getByEmail (security.lower call.email) = some account ∧
      user.id = account.id ∧
      token = security.jwt.encode (Login.ofCall security call account.id).claims ∧
      AuthService.Admits t (Login.ofCall security call account.id).session ∧
      t' = ⟨Table.modify Account.id account.id (AuthService.signedIn call) t.accounts,
        t.sessions ++ [(Login.ofCall security call account.id).session]⟩ := by
  simp only [AuthService.login, Outcome.bind_ok] at done
  obtain ⟨-, -, done⟩ := done
  split at done
  · cases done
  next account found =>
    split at done
    · cases done
    split at done
    · cases done
    split at done
    case isFalse => cases done
    case isTrue admitted =>
      obtain ⟨tables, rest⟩ := Prod.mk.inj (Except.ok.inj done)
      obtain ⟨rfl, rfl⟩ := Prod.mk.inj rest
      refine ⟨account, found, ?_, rfl, admitted, tables.symm⟩
      unfold AuthService.signedIn
      split <;> rfl

/-- A login keeps the identifier of an account. -/
@[simp] theorem id_signedIn (call : LoginCall) (account : Account) :
    (AuthService.signedIn call account).id = account.id := by
  unfold AuthService.signedIn
  split <;> rfl

/-- A logout leaves the accounts. -/
theorem accounts_logout (t : AuthTables) (token : String) (now : Timestamp) :
    (AuthService.logout security t token now).accounts = t.accounts := by
  unfold AuthService.logout
  split
  · rfl
  · split
    · rfl
    · unfold AuthTables.deleteByTokenHash
      split <;> rfl

/-- A logout adds no session. -/
theorem sessions_logout (t : AuthTables) (token : String) (now : Timestamp) :
    (AuthService.logout security t token now).sessions.Sublist t.sessions := by
  unfold AuthService.logout
  split
  · exact .refl _
  · split
    · exact .refl _
    · unfold AuthTables.deleteByTokenHash
      split
      · exact .refl _
      · exact List.filter_sublist

/-- No step removes an account. -/
theorem account_kept (t : AuthTables) (step : Step) {userId : Uuid}
    (present : (t.getAccount userId).isSome) :
    ((step.apply security t).getAccount userId).isSome := by
  have kept (k : Uuid) (change : Account → Account)
      (keeps : ∀ account, (change account).id = account.id) :
      (Table.get Account.id (Table.modify Account.id k change t.accounts) userId).isSome := by
    rw [Table.get_modify_of_keeps keeps, Option.isSome_map]
    exact present
  cases step with
  | login call =>
    simp only [Step.apply]
    split
    · next t' user token done =>
      obtain ⟨account, -, -, -, -, rfl⟩ := login_ok done
      exact kept account.id _ (id_signedIn call)
    · exact present
  | logout token now =>
    rw [Step.apply, AuthTables.getAccount, accounts_logout]
    exact present
  | purge now => exact present
  | updateUser target data now =>
    simp only [Step.apply, AuthService.updateUser]
    cases t.getAccount target with
    | none => exact present
    | some _ =>
      apply kept target
      intro account
      simp only [Account.id, User.touch]
      split <;> rfl

/-- What a step can do: sign someone in, sign someone out, purge, or leave the sessions. -/
theorem step_cases {s s' : World × List Event} {step : Step}
    (taken : (system security).next s step = some s') :
    s.1.clock ≤ step.span.1 ∧ step.span.1 ≤ step.span.2 ∧ s'.1.clock = step.span.2 ∧
      s'.1.tables = step.apply security s.1.tables ∧
      ((∃ call account, step = .login call ∧
          s.1.tables.getByEmail (security.lower call.email) = some account ∧
          AuthService.Admits s.1.tables (Login.ofCall security call account.id).session ∧
          s'.1.tables.sessions =
            s.1.tables.sessions ++ [(Login.ofCall security call account.id).session] ∧
          s'.2 = s.2 ++ [.login (.ofCall security call account.id)]) ∨
        (∃ token now, step = .logout token now ∧ s'.2 = s.2 ++ [.logout token]) ∨
        (∃ now, step = .purge now ∧ s'.2 = s.2) ∨
        (s'.1.tables.sessions = s.1.tables.sessions ∧ s'.2 = s.2)) := by
  obtain ⟨world, moved, rfl⟩ := Option.map_eq_some_iff.mp taken
  obtain ⟨⟨begins, ends⟩, rfl⟩ := Option.ite_none_right_eq_some.mp moved |>.imp id Option.some.inj
  refine ⟨begins, ends, rfl, rfl, ?_⟩
  cases step with
  | login call =>
    simp only [record, Step.apply]
    split
    · next t' user token done =>
      obtain ⟨account, found, same, -, admitted, rfl⟩ := login_ok done
      refine .inl ⟨call, account, rfl, found, admitted, rfl, ?_⟩
      rw [same]
    · exact .inr (.inr (.inr ⟨rfl, List.append_nil _⟩))
  | logout token now => exact .inr (.inl ⟨token, now, rfl, rfl⟩)
  | purge now => exact .inr (.inr (.inl ⟨now, rfl, List.append_nil _⟩))
  | updateUser target data now =>
    refine .inr (.inr (.inr ⟨?_, List.append_nil _⟩))
    simp only [Step.apply, AuthService.updateUser]
    cases s.1.tables.getAccount target <;> rfl

/-- A step forgets nothing of the log. -/
theorem log_grows {s s' : World × List Event} {step : Step}
    (taken : (system security).next s step = some s') {event : Event} (inside : event ∈ s.2) :
    event ∈ s'.2 := by
  obtain ⟨world, -, rfl⟩ := Option.map_eq_some_iff.mp taken
  exact List.mem_append_left _ inside

/-! ## The log -/

/-- What happened since an earlier login goes on with the next event. -/
theorem since_concat {log : List Event} {made : Login} (happened : .login made ∈ log)
    (event : Event) : since (log ++ [event]) made = since log made ++ [event] := by
  have reached : (since log made).isEmpty = false := by
    rw [since, List.isEmpty_eq_false_iff, Ne, List.dropWhile_eq_nil_iff]
    intro skipped
    simpa using skipped _ happened
  rw [since, List.dropWhile_append]
  rw [since] at reached
  rw [reached]
  rfl

/-- Nothing happened yet since a login that has just happened. -/
theorem since_new {log : List Event} {made : Login} (new : .login made ∉ log) :
    since (log ++ [.login made]) made = [.login made] := by
  have skipped : log.dropWhile (fun event => decide (event ≠ .login made)) = [] := by
    rw [List.dropWhile_eq_nil_iff]
    intro event inside
    exact decide_eq_true fun same => new (same ▸ inside)
  rw [since, List.dropWhile_append, skipped]
  simp

/-- An event logs an earlier login out when it is a logout with a string of its claims. -/
theorem loggedOut_concat {log : List Event} {made : Login} (happened : .login made ∈ log)
    (event : Event) : LoggedOut security (log ++ [event]) made ↔
      LoggedOut security log made ∨
        ∃ token, event = .logout token ∧ security.jwt.signed token = some made.claims := by
  simp only [LoggedOut, since_concat happened, List.mem_append, List.mem_singleton]
  constructor
  · rintro ⟨token, earlier | now, carries⟩
    · exact .inl ⟨token, earlier, carries⟩
    · exact .inr ⟨token, now.symm, carries⟩
  · rintro (⟨token, earlier, carries⟩ | ⟨token, now, carries⟩)
    · exact ⟨token, .inl earlier, carries⟩
    · exact ⟨token, .inr now.symm, carries⟩

/-- A login that has just happened is not logged out. -/
theorem not_loggedOut_new {log : List Event} {made : Login} (new : .login made ∉ log) :
    ¬LoggedOut security (log ++ [.login made]) made := by
  rintro ⟨token, inside, -⟩
  rw [since_new new, List.mem_singleton] at inside
  cases inside

/-! ## The invariant -/

variable (security) in
/-- What a login of the past left: a token of its user under its identifier, and a user. -/
structure Minted (s : World) (made : Login) : Prop where
  tokenHash : made.session.tokenHash = security.tokenIdHash made.jti
  sub : made.claims.sub = some (Uuid.print made.session.userId)
  type : made.claims.type = some tokenTypeAccess
  jti : made.claims.jti = some made.jti
  mature : ¬made.claims.Immature s.clock
  user : (s.tables.getAccount made.session.userId).isSome

/-- A token that was mature stays mature. -/
theorem Minted.mature_later {s : World} {made : Login} (minted : Minted security s made)
    {now : Timestamp} (later : s.clock ≤ now) : ¬made.claims.Immature now := by
  rintro ⟨iat, stored, early⟩
  exact minted.mature ⟨iat, stored, Int.lt_of_le_of_lt later early⟩

/-- A login of the past stays one, as the clock goes on and accounts stay. -/
theorem Minted.later {s s' : World} {made : Login} (minted : Minted security s made)
    (later : s.clock ≤ s'.clock)
    (user : (s'.tables.getAccount made.session.userId).isSome) : Minted security s' made :=
  { minted with mature := minted.mature_later later, user }

/-- A login that has just succeeded is one of the past. -/
theorem minted_ofCall {s : World} {call : LoginCall} {userId : Uuid}
    (now : s.clock = call.mintedAt) (user : (s.tables.getAccount userId).isSome) :
    Minted security s (.ofCall security call userId) where
  tokenHash := rfl
  sub := rfl
  type := rfl
  jti := rfl
  mature := by
    rintro ⟨iat, stored, early⟩
    obtain rfl := Option.some.inj stored
    rw [now] at early
    exact absurd (second_floor_le call.mintedAt) (Int.not_le.mpr early)
  user

variable (security) in
/-- The sessions are those of the logins that no logout named, less those whose time has come. -/
structure Sound (s : World × List Event) : Prop where
  minted : ∀ made, .login made ∈ s.2 → Minted security s.1 made
  unique : ∀ first last, .login first ∈ s.2 → .login last ∈ s.2 → first.jti = last.jti →
    first = last
  ids : (s.1.tables.sessions.map UserSession.id).Nodup
  rows : ∀ row ∈ s.1.tables.sessions, ∃ made, .login made ∈ s.2 ∧ made.session = row
  ended : ∀ made, .login made ∈ s.2 → LoggedOut security s.2 made →
    made.session ∉ s.1.tables.sessions
  kept : ∀ made, .login made ∈ s.2 → ¬LoggedOut security s.2 made →
    made.session ∈ s.1.tables.sessions ∨ made.session.expiresAt < s.1.clock

namespace Sound

variable {s : World × List Event} (sound : Sound security s)

include sound

/-- Logins of the same claims are the same login. -/
theorem eq_of_claims {first last : Login} (one : .login first ∈ s.2) (other : .login last ∈ s.2)
    (same : first.claims = last.claims) : first = last := by
  apply sound.unique first last one other
  have jtis := (sound.minted first one).jti.symm.trans
    ((congrArg Claims.jti same).trans (sound.minted last other).jti)
  exact Option.some.inj jtis

/-- A row under the hash of a login is the session of the login. -/
theorem eq_of_hash {made : Login} (happened : .login made ∈ s.2) {row : UserSession}
    (inside : row ∈ s.1.tables.sessions) (hash : row.tokenHash = security.tokenIdHash made.jti) :
    row = made.session := by
  obtain ⟨other, earlier, rfl⟩ := sound.rows row inside
  rw [(sound.minted other earlier).tokenHash, tokenIdHash_inj] at hash
  rw [sound.unique other made earlier happened hash]

/-- The hash of a login finds its session exactly when that is stored. -/
theorem lookup_isSome {made : Login} (happened : .login made ∈ s.2) :
    (s.1.tables.getByTokenHash (security.tokenIdHash made.jti)).isSome ↔
      made.session ∈ s.1.tables.sessions := by
  rw [AuthTables.getByTokenHash, Option.isSome_iff_exists, ← Table.has_iff_get, Table.has,
    List.any_eq_true]
  constructor
  · rintro ⟨row, inside, hash⟩
    exact sound.eq_of_hash happened inside (of_decide_eq_true hash) ▸ inside
  · intro inside
    exact ⟨_, inside, decide_eq_true (sound.minted made happened).tokenHash⟩

/-- Deleting under the hash of a login deletes its session and no other. -/
theorem mem_delete {made : Login} (happened : .login made ∈ s.2) {row : UserSession} :
    row ∈ (s.1.tables.deleteByTokenHash (security.tokenIdHash made.jti)).sessions ↔
      row ∈ s.1.tables.sessions ∧ row ≠ made.session := by
  unfold AuthTables.deleteByTokenHash
  cases found : s.1.tables.getByTokenHash (security.tokenIdHash made.jti) with
  | none =>
    have absent : made.session ∉ s.1.tables.sessions := by
      rw [← sound.lookup_isSome happened, found]
      exact Bool.false_ne_true
    exact ⟨fun inside => ⟨inside, fun same => absurd (same ▸ inside) absent⟩, And.left⟩
  | some session =>
    obtain rfl := sound.eq_of_hash happened (Table.get_mem found) (Table.get_key found)
    have stored := Table.get_mem found
    simp only [Table.remove, List.mem_filter, decide_eq_true_eq]
    refine and_congr_right fun inside => not_congr ⟨fun same => ?_, fun same => same ▸ rfl⟩
    exact List.inj_on_of_nodup_map sound.ids inside stored same

/-- A logout deletes the session of the login whose claims its string carries, and no other. -/
theorem mem_logout {token : String} {now : Timestamp} (genuine : Unforged security s.2 token)
    (later : s.1.clock ≤ now) {row : UserSession} :
    row ∈ (AuthService.logout security s.1.tables token now).sessions ↔
      row ∈ s.1.tables.sessions ∧ ∀ made, .login made ∈ s.2 →
        security.jwt.signed token = some made.claims → row ≠ made.session := by
  have decoded := security.jwt.decode_ok_iff token false now
  unfold AuthService.logout Security.decodeToken
  cases result : security.jwt.decode token false now with
  | error problem =>
    refine ⟨fun inside => ⟨inside, fun made happened carries => ?_⟩, And.left⟩
    have passes := (decoded made.claims).mpr
      ⟨carries, (sound.minted made happened).mature_later later, fun h => absurd h (by decide)⟩
    rw [result] at passes
    cases passes
  | ok payload =>
    obtain ⟨carried, -⟩ := (decoded payload).mp result
    obtain ⟨made, happened, rfl⟩ := genuine payload carried
    simp only [(sound.minted made happened).jti]
    rw [sound.mem_delete happened]
    refine and_congr_right fun _ => ⟨fun other made' happened' carries => ?_, fun all =>
      all made happened carried⟩
    rw [sound.eq_of_claims happened' happened (Option.some.inj (carries.symm.trans carried))]
    exact other

/-- A login adds a session to what it is sound to have. -/
theorem login {s' : World × List Event} {call : LoginCall} {account : Account}
    (trusted : Trusted security s (.login call)) (later : s.1.clock ≤ s'.1.clock)
    (admitted : AuthService.Admits s.1.tables (Login.ofCall security call account.id).session)
    (sessions : s'.1.tables.sessions =
      s.1.tables.sessions ++ [(Login.ofCall security call account.id).session])
    (log : s'.2 = s.2 ++ [.login (.ofCall security call account.id)])
    (minted : ∀ made, .login made ∈ s'.2 → Minted security s'.1 made) :
    Sound security s' := by
  let new := Login.ofCall security call account.id
  have fresh : .login new ∉ s.2 := fun happened => trusted new happened rfl
  have past {made : Login} (happened : .login made ∈ s'.2) : .login made ∈ s.2 ∨ made = new := by
    rw [log, List.mem_append, List.mem_singleton] at happened
    exact happened.imp id Event.login.inj
  have stands {made : Login} (happened : .login made ∈ s.2) :
      LoggedOut security s'.2 made ↔ LoggedOut security s.2 made := by
    rw [log, loggedOut_concat happened]
    exact or_iff_left (by rintro ⟨token, other, -⟩; cases other)
  have newStands : ¬LoggedOut security s'.2 new := log ▸ not_loggedOut_new fresh
  have stored {row : UserSession} :
      row ∈ s'.1.tables.sessions ↔ row ∈ s.1.tables.sessions ∨ row = new.session := by
    rw [sessions, List.mem_append, List.mem_singleton]
  have newId : ∀ row ∈ s.1.tables.sessions, row.id ≠ new.session.id := by
    intro row inside same
    have absent := admitted.1
    rw [Table.has, List.any_eq_false] at absent
    exact absent row inside (decide_eq_true same)
  refine ⟨minted, ?_, ?_, ?_, ?_, ?_⟩
  · intro first last one other same
    rcases past one with one | rfl <;> rcases past other with other | rfl
    · exact sound.unique first last one other same
    · exact absurd same (trusted first one)
    · exact absurd same.symm (trusted last other)
    · rfl
  · rw [sessions, List.map_append, List.nodup_append]
    refine ⟨sound.ids, List.nodup_singleton _, ?_⟩
    rintro id inside other rest rfl
    obtain ⟨row, here, same⟩ := List.mem_map.mp inside
    exact newId row here (same.trans (List.mem_singleton.mp rest))
  · intro row inside
    rcases stored.mp inside with earlier | rfl
    · obtain ⟨made, happened, same⟩ := sound.rows row earlier
      exact ⟨made, log ▸ List.mem_append_left _ happened, same⟩
    · exact ⟨new, log ▸ List.mem_append_right _ (List.mem_singleton.mpr rfl), rfl⟩
  · intro made happened out inside
    rcases past happened with earlier | rfl
    · have gone := sound.ended made earlier ((stands earlier).mp out)
      rcases stored.mp inside with old | same
      · exact gone old
      · have hash := (sound.minted made earlier).tokenHash
        rw [same] at hash
        exact trusted made earlier (tokenIdHash_inj.mp hash).symm
    · exact newStands out
  · intro made happened stays
    rcases past happened with earlier | rfl
    · rcases sound.kept made earlier fun out => stays ((stands earlier).mpr out) with row | expired
      · exact .inl (stored.mpr (.inl row))
      · exact .inr (Int.lt_of_lt_of_le expired later)
    · exact .inl (stored.mpr (.inr rfl))

/-- A logout ends what it is sound to end. -/
theorem logout {s' : World × List Event} {token : String} {now : Timestamp}
    (genuine : Unforged security s.2 token) (later : s.1.clock ≤ now)
    (clock : s'.1.clock = now)
    (tables : s'.1.tables = AuthService.logout security s.1.tables token now)
    (log : s'.2 = s.2 ++ [.logout token])
    (minted : ∀ made, .login made ∈ s'.2 → Minted security s'.1 made) :
    Sound security s' := by
  have past {made : Login} : .login made ∈ s'.2 ↔ .login made ∈ s.2 := by
    rw [log, List.mem_append, List.mem_singleton]
    exact or_iff_left Event.noConfusion
  have stored {row : UserSession} : row ∈ s'.1.tables.sessions ↔
      row ∈ s.1.tables.sessions ∧ ∀ made, .login made ∈ s.2 →
        security.jwt.signed token = some made.claims → row ≠ made.session :=
    tables ▸ sound.mem_logout genuine later
  have out {made : Login} (happened : .login made ∈ s.2) : LoggedOut security s'.2 made ↔
      LoggedOut security s.2 made ∨ security.jwt.signed token = some made.claims := by
    rw [log, loggedOut_concat happened]
    refine or_congr_right ⟨?_, fun carries => ⟨token, rfl, carries⟩⟩
    rintro ⟨given, same, carries⟩
    rwa [Event.logout.inj same]
  refine ⟨minted, ?_, ?_, ?_, ?_, ?_⟩
  · intro first last one other same
    exact sound.unique first last (past.mp one) (past.mp other) same
  · rw [tables]
    exact sound.ids.sublist ((sessions_logout s.1.tables token now).map _)
  · intro row inside
    obtain ⟨made, happened, same⟩ := sound.rows row (stored.mp inside).1
    exact ⟨made, past.mpr happened, same⟩
  · intro made happened ended inside
    obtain ⟨earlier, others⟩ := stored.mp inside
    rcases (out (past.mp happened)).mp ended with before | carries
    · exact sound.ended made (past.mp happened) before earlier
    · exact others made (past.mp happened) carries rfl
  · intro made happened stays
    rw [out (past.mp happened), not_or] at stays
    rcases sound.kept made (past.mp happened) stays.1 with row | expired
    · refine .inl (stored.mpr ⟨row, fun other earlier carries same => stays.2 ?_⟩)
      have hash := (sound.minted made (past.mp happened)).tokenHash
      rw [same, (sound.minted other earlier).tokenHash, tokenIdHash_inj] at hash
      rwa [← sound.unique other made earlier (past.mp happened) hash]
    · exact .inr (clock ▸ Int.lt_of_lt_of_le expired later)

/-- Dropping sessions whose time has come keeps what it is sound to have. -/
theorem purge {s' : World × List Event} {now : Timestamp} (later : s.1.clock ≤ now)
    (clock : s'.1.clock = now)
    (stored : s'.1.tables.sessions =
      s.1.tables.sessions.filter fun session => !decide (session.expiresAt < now))
    (log : s'.2 = s.2) (minted : ∀ made, .login made ∈ s'.2 → Minted security s'.1 made) :
    Sound security s' := by
  refine ⟨minted, log ▸ sound.unique, ?_, ?_, ?_, ?_⟩
  · rw [stored]
    exact sound.ids.sublist (List.filter_sublist.map _)
  · intro row inside
    rw [stored, List.mem_filter] at inside
    exact log ▸ sound.rows row inside.1
  · intro made happened ended inside
    rw [stored, List.mem_filter] at inside
    exact sound.ended made (log ▸ happened) (log ▸ ended) inside.1
  · intro made happened stays
    rw [stored, List.mem_filter, clock]
    rcases sound.kept made (log ▸ happened) (log ▸ stays) with row | expired
    · by_cases due : made.session.expiresAt < now
      · exact .inr due
      · exact .inl ⟨row, by rw [decide_eq_false due]; rfl⟩
    · exact .inr (Int.lt_of_lt_of_le expired later)

end Sound

/-- Every step keeps the invariant. -/
theorem sound_next {s s' : World × List Event} {step : Step} (sound : Sound security s)
    (trusted : Trusted security s step) (taken : (system security).next s step = some s') :
    Sound security s' := by
  obtain ⟨begins, ends, clock, tables, kinds⟩ := step_cases taken
  have later : s.1.clock ≤ s'.1.clock := clock ▸ Int.le_trans begins ends
  have user {userId : Uuid} (present : (s.1.tables.getAccount userId).isSome) :
      (s'.1.tables.getAccount userId).isSome := tables ▸ account_kept _ step present
  have past {made : Login} (happened : .login made ∈ s.2) : Minted security s'.1 made :=
    (sound.minted made happened).later later (user (sound.minted made happened).user)
  rcases kinds with ⟨call, account, rfl, found, admitted, sessions, log⟩ |
    ⟨token, now, rfl, log⟩ | ⟨now, rfl, log⟩ | ⟨sessions, log⟩
  · refine sound.login trusted later admitted sessions log ?_
    intro made happened
    rw [log, List.mem_append, List.mem_singleton] at happened
    rcases happened with earlier | same
    · exact past earlier
    · rw [Event.login.inj same]
      refine minted_ofCall clock (user ?_)
      rw [AuthTables.getAccount, Option.isSome_iff_exists, ← Table.has_iff_get, Table.has,
        List.any_eq_true]
      exact ⟨account, List.mem_of_find?_eq_some found, decide_eq_true rfl⟩
  · refine sound.logout trusted begins clock tables log fun made happened => past ?_
    rw [log, List.mem_append, List.mem_singleton] at happened
    exact happened.resolve_right Event.noConfusion
  · exact sound.purge begins clock (tables ▸ rfl) log fun made happened => past (log ▸ happened)
  · refine ⟨fun made happened => past (log ▸ happened), log ▸ sound.unique, sessions ▸ sound.ids,
      ?_, ?_, ?_⟩
    · rw [sessions, log]
      exact sound.rows
    · rw [sessions, log]
      exact sound.ended
    · rw [sessions, log]
      intro made happened stays
      exact (sound.kept made happened stays).imp id fun expired => Int.lt_of_lt_of_le expired later

/-- The invariant holds in every reachable state. -/
theorem sound_of_reachable {s : World × List Event}
    (reached : (system security).Reachable (Trusted security) s) : Sound security s := by
  apply reached.invariant
  · rintro ⟨world, log⟩ ⟨empty, rfl⟩
    have none : world.tables.sessions = [] := empty
    refine ⟨?_, ?_, none ▸ List.nodup_nil, ?_, ?_, ?_⟩
    · exact fun made happened => absurd happened List.not_mem_nil
    · exact fun first last happened => absurd happened List.not_mem_nil
    · exact fun row inside => absurd (none ▸ inside) List.not_mem_nil
    · exact fun made happened => absurd happened List.not_mem_nil
    · exact fun made happened => absurd happened List.not_mem_nil
  · exact fun s step s' sound trusted taken => sound_next sound trusted taken

/-! ## The check of a request -/

/-- When a user is returned for a string. -/
theorem getCurrentUser_ok_iff {t : AuthTables} {token : String} {now : Timestamp} {user : User} :
    getCurrentUser security t (some token) now = .ok user ↔
      ∃ payload, security.jwt.signed token = some payload ∧ ¬payload.Immature now ∧
        ¬payload.Expired now ∧ payload.type = some tokenTypeAccess ∧
        sessionGone security t payload = false ∧
        ∃ account, (Uuid.parse (payload.sub.getD "")).bind t.getAccount = some account ∧
          account.user.isActive = true ∧ account.user = user := by
  have decoded := security.jwt.decode_ok_iff token true now
  cases result : security.jwt.decode token true now with
  | error problem =>
    simp only [getCurrentUser, Security.decodeToken, result]
    constructor
    · intro done
      cases problem <;> cases done
    · rintro ⟨payload, carried, mature, fresh, -⟩
      have passes := (decoded payload).mpr ⟨carried, mature, fun _ => fresh⟩
      rw [result] at passes
      cases passes
  | ok payload =>
    obtain ⟨carried, mature, fresh⟩ := (decoded payload).mp result
    simp only [getCurrentUser, Security.decodeToken, result]
    constructor
    · intro done
      refine ⟨payload, carried, mature, fresh rfl, ?_⟩
      split at done
      · cases done
      next kind =>
      split at done
      · cases done
      next alive =>
      split at done
      · cases done
      next account found =>
      split at done
      case isFalse => cases done
      case isTrue active =>
        exact ⟨not_not.mp kind, Bool.eq_false_iff.mpr alive, account, found, active,
          Except.ok.inj done⟩
    · rintro ⟨other, also, -, -, kind, alive, account, found, active, rfl⟩
      obtain rfl := Option.some.inj (carried.symm.trans also)
      rw [if_neg (not_not.mpr kind), alive, if_neg Bool.false_ne_true, found]
      exact if_pos active

/-- The check reads the accounts, and whether the session a string names is gone. -/
theorem getCurrentUser_congr {t t' : AuthTables} {token : String} {now : Timestamp}
    (accounts : t'.accounts = t.accounts)
    (sessions : ∀ payload, security.jwt.signed token = some payload →
      sessionGone security t' payload = sessionGone security t payload) :
    getCurrentUser security t' (some token) now = getCurrentUser security t (some token) now := by
  have decoded := security.jwt.decode_ok_iff token true now
  have account : t'.getAccount = t.getAccount := by
    funext userId
    rw [AuthTables.getAccount, AuthTables.getAccount, accounts]
  cases result : security.jwt.decode token true now with
  | error problem =>
    simp only [getCurrentUser, Security.decodeToken, result]
    cases problem <;> rfl
  | ok payload =>
    have same := sessions payload ((decoded payload).mp result).1
    simp only [getCurrentUser, Security.decodeToken, result, same, account]

/-- Who a login's token is accepted as: its user, if active, while its session is stored and its
time has not come. -/
theorem Sound.accepted_iff {s : World × List Event} (sound : Sound security s) {made : Login}
    (happened : .login made ∈ s.2) {token : String}
    (carries : security.jwt.signed token = some made.claims) {now : Timestamp}
    (later : s.1.clock ≤ now) {user : User} :
    getCurrentUser security s.1.tables (some token) now = .ok user ↔
      ¬made.claims.Expired now ∧ made.session ∈ s.1.tables.sessions ∧
        ∃ account, s.1.tables.getAccount made.session.userId = some account ∧
          account.user.isActive = true ∧ account.user = user := by
  have minted := sound.minted made happened
  have alive : sessionGone security s.1.tables made.claims = false ↔
      made.session ∈ s.1.tables.sessions := by
    rw [← sound.lookup_isSome happened, sessionGone, minted.jti, Option.any_some,
      ← Option.not_isSome, Bool.not_eq_false']
  have owner : (Uuid.parse (made.claims.sub.getD "")).bind s.1.tables.getAccount =
      s.1.tables.getAccount made.session.userId := by
    rw [minted.sub, Option.getD_some, Uuid.parse_print, Option.bind_some]
  rw [getCurrentUser_ok_iff]
  constructor
  · rintro ⟨payload, carried, -, fresh, -, stored, user⟩
    obtain rfl := Option.some.inj (carries.symm.trans carried)
    exact ⟨fresh, alive.mp stored, owner ▸ user⟩
  · rintro ⟨fresh, stored, user⟩
    exact ⟨made.claims, carries, minted.mature_later later, fresh, minted.type, alive.mpr stored,
      owner.symm ▸ user⟩

/-- A logout is not seen by a string of other claims than the one it was given. -/
theorem Sound.other_unchanged {s s' : World × List Event} (sound : Sound security s)
    {ended token : String} {at' now : Timestamp} (known : Unforged security s.2 ended)
    (genuine : Unforged security s.2 token)
    (taken : (system security).next s (.logout ended at') = some s')
    (apart : security.jwt.signed ended ≠ security.jwt.signed token) :
    getCurrentUser security s'.1.tables (some token) now =
      getCurrentUser security s.1.tables (some token) now := by
  obtain ⟨later, -, clock, tables, -⟩ := step_cases taken
  have trusted : Trusted security s (.logout ended at') := known
  have sound' := sound_next sound trusted taken
  apply getCurrentUser_congr
  · rw [tables]
    exact accounts_logout _ _ _
  · intro payload carried
    obtain ⟨made, happened, rfl⟩ := genuine payload carried
    have happened' : .login made ∈ s'.2 := log_grows taken happened
    have alive := sound.lookup_isSome happened
    have alive' := sound'.lookup_isSome happened'
    have stored : made.session ∈ s'.1.tables.sessions ↔ made.session ∈ s.1.tables.sessions := by
      rw [tables]
      refine (sound.mem_logout known later).trans (and_iff_left ?_)
      intro other earlier carries same
      have hash := (sound.minted made happened).tokenHash
      rw [same, (sound.minted other earlier).tokenHash, tokenIdHash_inj] at hash
      rw [sound.unique other made earlier happened hash, ← carried] at carries
      exact apart carries
    rw [sessionGone, sessionGone, (sound.minted made happened).jti, Option.any_some,
      Option.any_some, ← Option.not_isSome, ← Option.not_isSome,
      Bool.eq_iff_iff.mpr (alive'.trans (stored.trans alive.symm))]

variable (security) in
/-- Sessions are revoked exactly. After any run, a string is accepted only as the token of a login
that happened, that no logout has named since, that is not past its time and whose user is active;
such a token is accepted as long as its session is not past its own time; and a logout changes
nothing for a string of other claims than the one it was given. -/
theorem revoked_exactly {s : World × List Event}
    (reached : (system security).Reachable (Trusted security) s) {token : String}
    (genuine : Unforged security s.2 token) {now : Timestamp} (later : s.1.clock ≤ now) :
    (∀ user, getCurrentUser security s.1.tables (some token) now = .ok user →
      ∃ made, .login made ∈ s.2 ∧ security.jwt.signed token = some made.claims ∧
        ¬LoggedOut security s.2 made ∧ ¬made.claims.Expired now ∧
        ∃ account, s.1.tables.getAccount made.session.userId = some account ∧
          account.user.isActive = true ∧ account.user = user) ∧
    (∀ made, .login made ∈ s.2 → security.jwt.signed token = some made.claims →
      ¬LoggedOut security s.2 made → ¬made.claims.Expired now →
      now ≤ made.session.expiresAt → ∀ account,
        s.1.tables.getAccount made.session.userId = some account →
        account.user.isActive = true →
        getCurrentUser security s.1.tables (some token) now = .ok account.user) ∧
    (∀ ended at' s', Unforged security s.2 ended →
      (system security).next s (.logout ended at') = some s' →
      security.jwt.signed ended ≠ security.jwt.signed token →
        getCurrentUser security s'.1.tables (some token) now =
          getCurrentUser security s.1.tables (some token) now) := by
  have sound := sound_of_reachable reached
  refine ⟨?_, ?_, ?_⟩
  · intro user accepted
    obtain ⟨payload, carried, -⟩ := getCurrentUser_ok_iff.mp accepted
    obtain ⟨made, happened, rfl⟩ := genuine payload carried
    obtain ⟨fresh, stored, owner⟩ := (sound.accepted_iff happened carried later).mp accepted
    exact ⟨made, happened, carried, fun out => sound.ended made happened out stored, fresh, owner⟩
  · intro made happened carries stays fresh inTime account owner active
    apply (sound.accepted_iff happened carries later).mpr
    refine ⟨fresh, (sound.kept made happened stays).resolve_right ?_, account, owner, active, rfl⟩
    exact Int.not_lt.mpr (Int.le_trans later inTime)
  · intro ended at' s' known taken apart
    exact sound.other_unchanged known genuine taken apart

/-! ## A sample -/

/-- The character numbers of a text. -/
def sampleCodes (text : String) : List Nat := text.toList.map Char.toNat

/-- The text of character numbers. -/
def sampleText (codes : List Nat) : String := String.ofList (codes.map Char.ofNat)

/-- Claims as a token carries them. -/
abbrev SampleWire : Type :=
  Option (List Nat) × Option (List Nat) × Option Int × Option Int × Option (List Nat)

/-- A token that is as long as the number of its claims. -/
def sampleEncode (claims : Claims) : String :=
  let wire : SampleWire := (claims.sub.map sampleCodes, claims.type.map sampleCodes, claims.iat,
    claims.exp, claims.jti.map sampleCodes)
  String.ofList (List.replicate (Encodable.encode wire) 'x')

/-- The claims of a token. -/
def sampleSigned (token : String) : Option Claims :=
  (Encodable.decode token.toList.length : Option SampleWire).map fun wire =>
    ⟨wire.1.map sampleText, wire.2.1.map sampleText, wire.2.2.1, wire.2.2.2.1,
      wire.2.2.2.2.map sampleText⟩

/-- The text of the character numbers of a text is the text. -/
theorem sampleText_codes (text : String) : sampleText (sampleCodes text) = text := by
  have back : Char.ofNat ∘ Char.toNat = id := funext fun c => Char.ofNat_toNat c
  rw [sampleText, sampleCodes, List.map_map, back, List.map_id, String.ofList_toList]

/-- A library that refuses an expired or immature token. -/
def sampleJwt : Jwt where
  encode := sampleEncode
  signed := sampleSigned
  decode token verifyExp now :=
    match sampleSigned token with
    | none => .error .other
    | some claims =>
      if claims.Immature now then .error .other
      else if verifyExp = true ∧ claims.Expired now then .error .expiredSignature
      else .ok claims
  signed_encode claims := by
    have back : sampleText ∘ sampleCodes = id := funext sampleText_codes
    simp only [sampleSigned, sampleEncode, String.toList_ofList, List.length_replicate,
      Encodable.encodek, Option.map_some, Option.map_map, back, Option.map_id_fun, id_eq]
  decode_ok_iff token verifyExp now claims := by
    cases sampleSigned token with
    | none => exact ⟨fun h => (by cases h), fun h => (by cases h.1)⟩
    | some carried =>
      dsimp only
      split
      case isTrue immature =>
        refine ⟨fun h => (by cases h), fun h => ?_⟩
        exact absurd (Option.some.inj h.1 ▸ immature) h.2.1
      case isFalse mature =>
        split
        case isTrue expired =>
          refine ⟨fun h => (by cases h), fun h => ?_⟩
          exact absurd (Option.some.inj h.1 ▸ expired.2) (h.2.2 expired.1)
        case isFalse fresh =>
          constructor
          · intro h
            obtain rfl := Except.ok.inj h
            exact ⟨rfl, mature, fun checked expired => fresh ⟨checked, expired⟩⟩
          · intro h
            rw [Option.some.inj h.1]

/-- Tokens that live seven hours, under that library. -/
def sampleSecurity : Security where
  jwt := sampleJwt
  accessTokenExpireMinutes := 420
  sha256 := id
  sha256_injective := Function.injective_id
  verifyPassword password stored := decide (password = stored)
  dummyPasswordHash := "dummy"
  lower := id

/-- Someone with a password. -/
def sampleAccount : Account :=
  ⟨⟨1, "ann@example.com", "Ann", .user, true, 0⟩, "secret", none⟩

/-- A sign-in of that person, at a second. -/
def sampleCall (n : Nat) : LoginCall :=
  { email := "ann@example.com", password := "secret", userAgent := none, ip := none
    enforced := .ok (), tokenId := BitVec.ofNat 128 n, rowId := BitVec.ofNat 128 (100 + n)
    sessionAt := n * second, loginAt := n * second, mintedAt := n * second
    writtenAt := n * second }

/-- The login a sign-in makes. -/
def sampleLogin (n : Nat) : Login := .ofCall sampleSecurity (sampleCall n) 1

/-- The token of a login. -/
def sampleToken (n : Nat) : String := sampleSecurity.jwt.encode (sampleLogin n).claims

/-- Nobody is signed in. -/
def sampleWorld : World := ⟨⟨[sampleAccount], []⟩, 0⟩

/-- Two sign-ins of one person and a sign-out with the first token. -/
def sampleSteps : List Step :=
  [.login (sampleCall 1), .login (sampleCall 2), .logout (sampleToken 1) (3 * second)]

/-- The tokens of the sample carry the claims of their logins. -/
theorem signed_sampleToken (n : Nat) :
    sampleSecurity.jwt.signed (sampleToken n) = some (sampleLogin n).claims :=
  sampleSecurity.jwt.signed_encode _

/-- Both are signed in. -/
def sampleTables : AuthTables :=
  ⟨[AuthService.signedIn (sampleCall 2) (AuthService.signedIn (sampleCall 1) sampleAccount)],
    [(sampleLogin 1).session, (sampleLogin 2).session]⟩

/-- The sample steps are a run, and this is its log. -/
theorem sample_run : ∃ s, (system sampleSecurity).Run (Trusted sampleSecurity)
    (sampleWorld, []) sampleSteps s ∧
      s.2 = [.login (sampleLogin 1), .login (sampleLogin 2), .logout (sampleToken 1)] ∧
      s.1.clock = 3 * second ∧
      s.1.tables.getAccount 1 = some (AuthService.signedIn (sampleCall 2)
        (AuthService.signedIn (sampleCall 1) sampleAccount)) := by
  refine ⟨(⟨AuthService.logout sampleSecurity sampleTables (sampleToken 1) (3 * second),
    3 * second⟩, _), .cons ?_ rfl (.cons ?_ rfl (.cons ?_ rfl (.nil _))), rfl, rfl, ?_⟩
  · exact fun made happened => absurd happened List.not_mem_nil
  · intro made happened
    obtain rfl : made = sampleLogin 1 := Event.login.inj (List.mem_singleton.mp happened)
    decide
  · intro claims carried
    refine ⟨sampleLogin 1, List.mem_cons_self, ?_⟩
    exact Option.some.inj ((signed_sampleToken 1).symm.trans carried)
  · rw [AuthTables.getAccount, accounts_logout]
    rfl

/-- The second of two sign-ins is accepted after a sign-out with the first token. -/
theorem sample_second_accepted : ∃ s,
    (system sampleSecurity).Reachable (Trusted sampleSecurity) s ∧
      s.2 = [.login (sampleLogin 1), .login (sampleLogin 2), .logout (sampleToken 1)] ∧
      getCurrentUser sampleSecurity s.1.tables (some (sampleToken 2)) (4 * second) =
        .ok { sampleAccount.user with updatedAt := 2 * second } := by
  obtain ⟨s, run, log, clock, owner⟩ := sample_run
  have reached : (system sampleSecurity).Reachable (Trusted sampleSecurity) s :=
    ⟨(sampleWorld, []), sampleSteps, ⟨rfl, rfl⟩, run⟩
  have happened : .login (sampleLogin 2) ∈ s.2 := by
    rw [log]
    exact List.mem_cons_of_mem _ List.mem_cons_self
  have genuine : Unforged sampleSecurity s.2 (sampleToken 2) := fun claims carried =>
    ⟨_, happened, Option.some.inj ((signed_sampleToken 2).symm.trans carried)⟩
  have stays : ¬LoggedOut sampleSecurity s.2 (sampleLogin 2) := by
    rintro ⟨token, inside, carries⟩
    have rest : since s.2 (sampleLogin 2) = [.login (sampleLogin 2), .logout (sampleToken 1)] := by
      rw [log]
      rfl
    rw [rest] at inside
    obtain rfl : token = sampleToken 1 := by simpa using inside
    have same := congrArg Claims.jti (Option.some.inj ((signed_sampleToken 1).symm.trans carries))
    exact absurd same (by decide)
  have now : s.1.clock ≤ 4 * second := by
    rw [clock]
    decide
  exact ⟨s, reached, log, (revoked_exactly sampleSecurity reached genuine now).2.1 (sampleLogin 2)
    happened (signed_sampleToken 2) stays (by decide) (by decide) _ owner rfl⟩

end MarketingOS.Sessions
