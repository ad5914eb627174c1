/-!
# Sessions that a failed statement stops

A session on a database executes statements in a transaction and flushes the rows that were changed
in memory at its commit. A statement that fails makes the server refuse every later one until a
rollback, and a flush that fails makes the session itself refuse. A commit of what the server
refuses is answered as a rollback when there is nothing to flush.
-/
namespace MarketingOS

/-- What a session accepts. -/
inductive SessionStatus where
  | ready
  /-- A statement failed: the server refuses statements until a rollback. -/
  | aborted
  /-- A flush failed: the session refuses everything until a rollback. -/
  | inactive
deriving DecidableEq

/-- A session: what is committed, and what its transaction has written. -/
structure DbSession (σ : Type) where
  committed : σ
  working : σ
  status : SessionStatus

namespace DbSession

variable {σ ε : Type}

/-- A session that has written nothing. -/
def opened (t : σ) : DbSession σ := ⟨t, t, .ready⟩

/-- Execute a statement, which fails or writes. -/
def execute (refusal : SessionStatus → ε) (fault : Option ε) (write : σ → σ) (s : DbSession σ) :
    Except ε Unit × DbSession σ :=
  match s.status with
  | .ready =>
    match fault with
    | none => (.ok (), { s with working := write s.working })
    | some e => (.error e, { s with status := .aborted })
  | .aborted => (.error (refusal .aborted), s)
  | .inactive => (.error (refusal .inactive), s)

/-- Flush what was changed in memory, if anything was, and commit. -/
def commit (refusal : SessionStatus → ε) (fault : Option ε) (dirty : Bool) (write : σ → σ)
    (s : DbSession σ) : Except ε Unit × DbSession σ :=
  match s.status with
  | .ready =>
    if dirty then
      match fault with
      | none => (.ok (), opened (write s.working))
      | some e => (.error e, ⟨s.committed, s.committed, .inactive⟩)
    else (.ok (), opened s.working)
  | .aborted =>
    if dirty then (.error (refusal .aborted), ⟨s.committed, s.committed, .inactive⟩)
    -- the server answers the commit with a rollback, and nothing is raised
    else (.ok (), opened s.committed)
  | .inactive => (.error (refusal .inactive), s)

variable {refusal : SessionStatus → ε} {fault : Option ε} {write : σ → σ} {dirty : Bool}
  {s : DbSession σ}

/-- A statement that does not fail writes. -/
theorem execute_ready (ready : s.status = .ready) :
    execute refusal none write s = (.ok (), { s with working := write s.working }) := by
  rw [execute, ready]

/-- A statement that fails aborts the transaction. -/
theorem execute_fault (ready : s.status = .ready) (e : ε) :
    execute refusal (some e) write s = (.error e, { s with status := .aborted }) := by
  rw [execute, ready]

/-- Nothing is executed in a session that is not ready. -/
theorem execute_refused (stopped : s.status ≠ .ready) :
    execute refusal fault write s = (.error (refusal s.status), s) := by
  unfold execute
  cases status : s.status with
  | ready => exact absurd status stopped
  | aborted => rfl
  | inactive => rfl

/-- A commit whose flush does not fail commits what was written and flushed. -/
theorem commit_ready (ready : s.status = .ready) (flushed : dirty = true → fault = none) :
    commit refusal fault dirty write s =
      (.ok (), opened (if dirty then write s.working else s.working)) := by
  unfold commit
  rw [ready]
  cases dirty with
  | false => rfl
  | true =>
    rw [flushed rfl]
    rfl

/-- A flush that fails stops the session and commits nothing. -/
theorem commit_fault (ready : s.status = .ready) (e : ε) :
    commit refusal (some e) true write s =
      (.error e, ⟨s.committed, s.committed, .inactive⟩) := by
  unfold commit
  rw [ready]
  rfl

/-- Nothing is flushed in a session that is not ready: it stops, with what was committed. -/
theorem commit_refused (refusal : SessionStatus → ε) (fault : Option ε) (write : σ → σ)
    (stopped : s.status ≠ .ready) :
    ∃ left, commit refusal fault true write s = (.error (refusal s.status), left) ∧
      left.committed = s.committed ∧ left.status = .inactive := by
  unfold commit
  cases status : s.status with
  | ready => exact absurd status stopped
  | aborted => exact ⟨_, rfl, rfl, rfl⟩
  | inactive => exact ⟨s, rfl, rfl, status⟩

/-! ## Sessions alike -/

/-- Two sessions that do the same, on states that a relation compares. -/
structure Related (alike : σ → σ → Prop) (s s' : DbSession σ) : Prop where
  committed : alike s.committed s'.committed
  working : alike s.working s'.working
  status : s.status = s'.status

variable {alike : σ → σ → Prop} {s' : DbSession σ}

/-- New sessions on states alike are alike. -/
theorem related_opened {t t' : σ} (same : alike t t') : Related alike (opened t) (opened t') :=
  ⟨same, same, rfl⟩

/-- The same result, in sessions alike. -/
def Same {α : Type} (alike : σ → σ → Prop) (done done' : Except ε α × DbSession σ) : Prop :=
  done.1 = done'.1 ∧ Related alike done.2 done'.2

/-- The same result is the same exception or the same value. -/
theorem Same.cases {α : Type} {done done' : Except ε α × DbSession σ}
    (same : Same alike done done') : ∃ s s', Related alike s s' ∧
      ((∃ e, done = (.error e, s) ∧ done' = (.error e, s')) ∨
        ∃ value, done = (.ok value, s) ∧ done' = (.ok value, s')) := by
  obtain ⟨result, s⟩ := done
  obtain ⟨result', s'⟩ := done'
  obtain ⟨rfl, related⟩ : result = result' ∧ Related alike s s' := same
  refine ⟨s, s', related, ?_⟩
  cases result with
  | error e => exact .inl ⟨e, rfl, rfl⟩
  | ok value => exact .inr ⟨value, rfl, rfl⟩

/-- A statement comes out the same in sessions alike, and leaves them alike. -/
theorem Related.execute (related : Related alike s s') (refusal : SessionStatus → ε)
    (fault : Option ε) (keeps : ∀ t t', alike t t' → alike (write t) (write t')) :
    Same alike (execute refusal fault write s) (DbSession.execute refusal fault write s') := by
  obtain ⟨committed, working, status⟩ := related
  unfold DbSession.execute
  rw [← status]
  cases known : s.status with
  | ready =>
    cases fault with
    | none => exact ⟨rfl, committed, keeps _ _ working, rfl⟩
    | some e => exact ⟨rfl, committed, working, rfl⟩
  | aborted => exact ⟨rfl, committed, working, status⟩
  | inactive => exact ⟨rfl, committed, working, status⟩

/-- A commit comes out the same in sessions alike, and leaves them alike. -/
theorem Related.commit (related : Related alike s s') (refusal : SessionStatus → ε)
    (fault : Option ε) (dirty : Bool) (keeps : ∀ t t', alike t t' → alike (write t) (write t')) :
    Same alike (commit refusal fault dirty write s)
      (DbSession.commit refusal fault dirty write s') := by
  obtain ⟨committed, working, status⟩ := related
  unfold DbSession.commit
  rw [← status]
  cases known : s.status with
  | ready =>
    cases dirty with
    | false => exact ⟨rfl, related_opened working⟩
    | true =>
      cases fault with
      | none => exact ⟨rfl, related_opened (keeps _ _ working)⟩
      | some e => exact ⟨rfl, committed, committed, rfl⟩
  | aborted =>
    cases dirty with
    | false => exact ⟨rfl, related_opened committed⟩
    | true => exact ⟨rfl, committed, committed, rfl⟩
  | inactive => exact ⟨rfl, committed, working, status⟩

end DbSession

end MarketingOS
