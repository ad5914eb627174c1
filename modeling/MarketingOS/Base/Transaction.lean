import MarketingOS.Base.Machine

/-!
# Transactions in stages

A transaction works on a draft of its own, stage after stage, and only its end is committed. Any
stage may raise and the process may die between any two: then the draft is dropped. What is
committed therefore moves as if every transaction happened in one step or not at all, and an
invariant of the one-step machine holds of the committed state whatever fails.
-/
namespace MarketingOS

/-- A kind of transaction: the draft it starts from, the stages it goes through, each of which may
raise, and what is committed of the draft at the end. -/
structure Transaction (σ δ ℓ : Type) where
  draft : ℓ → σ → δ
  stages : ℓ → List (δ → Option δ)
  finish : δ → σ

namespace Transaction

variable {σ δ ℓ : Type}

/-- Go through stages; nothing when one of them raises. -/
def runStages : List (δ → Option δ) → δ → Option δ
  | [], d => some d
  | stage :: rest, d => (stage d).bind (runStages rest)

variable (t : Transaction σ δ ℓ)

/-- A whole transaction. -/
def whole (s : σ) (label : ℓ) : Option σ :=
  (runStages (t.stages label) (t.draft label s)).map t.finish

/-- What is committed, and the transaction that is open: the stages before it and its draft. -/
structure Session (σ δ : Type) where
  committed : σ
  running : Option (List (δ → Option δ) × δ)

/-- One step of a session. -/
inductive Move (ℓ : Type) where
  | begin (label : ℓ)
  /-- The next stage, or the commit when no stage is left. -/
  | advance
  /-- The transaction fails wherever it is, or its process dies. -/
  | fail

/-- The session after one step. -/
def next (s : Session σ δ) : Move ℓ → Option (Session σ δ)
  | .begin label =>
    match s.running with
    | none => some { s with running := some (t.stages label, t.draft label s.committed) }
    | some _ => none
  | .advance =>
    match s.running with
    | none => none
    | some ([], d) => some ⟨t.finish d, none⟩
    | some (stage :: rest, d) => some { s with running := (stage d).map fun d => (rest, d) }
  | .fail => some { s with running := none }

/-- Sessions from a start state, with nothing open. -/
def sessions (start : σ → Prop) : Machine (Session σ δ) (Move ℓ) where
  start s := start s.committed ∧ s.running = none
  next := t.next

/-- Whole transactions from a start state. -/
def atomic (start : σ → Prop) : Machine σ ℓ where
  start := start
  next := t.whole

variable {t}

/-- A step commits nothing unless it ends the transaction that is open. -/
theorem committed_or_finished {s s' : Session σ δ} {move : Move ℓ}
    (taken : t.next s move = some s') :
    s'.committed = s.committed ∨
      ∃ d, move = .advance ∧ s.running = some ([], d) ∧ s'.committed = t.finish d := by
  cases move with
  | begin label =>
    simp only [next] at taken
    split at taken
    · cases taken
      exact .inl rfl
    · cases taken
  | advance =>
    simp only [next] at taken
    split at taken
    · cases taken
    · next d running =>
      cases taken
      exact .inr ⟨d, rfl, running, rfl⟩
    · cases taken
      exact .inl rfl
  | fail =>
    cases taken
    exact .inl rfl

/-- Sessions move what is committed as whole transactions do. -/
def committedView (t : Transaction σ δ ℓ) (start : σ → Prop) :
    Machine.Simulation (t.sessions start) (t.atomic start) Machine.anyStep Machine.anyStep where
  view := Session.committed
  invariant s := ∀ rest d, s.running = some (rest, d) →
    ∃ label, runStages (t.stages label) (t.draft label s.committed) = runStages rest d
  start := by
    rintro s ⟨first, idle⟩
    refine ⟨first, fun rest d running => ?_⟩
    rw [idle] at running
    cases running
  step := by
    intro s move s' known _ taken
    replace taken : t.next s move = some s' := taken
    cases move with
    | begin label =>
      simp only [next] at taken
      split at taken
      · cases taken
        refine ⟨fun rest d running => ?_, .inl rfl⟩
        cases running
        exact ⟨label, rfl⟩
      · cases taken
    | advance =>
      simp only [next] at taken
      split at taken
      · cases taken
      · next d running =>
        cases taken
        refine ⟨fun rest d running => (by cases running), .inr ?_⟩
        obtain ⟨label, same⟩ := known [] d running
        refine ⟨label, trivial, ?_⟩
        show t.whole s.committed label = some (t.finish d)
        rw [whole, same]
        rfl
      · next stage rest d running =>
        cases taken
        refine ⟨fun later d' ahead => ?_, .inl rfl⟩
        obtain ⟨made, staged, same⟩ := Option.map_eq_some_iff.mp ahead
        cases same
        obtain ⟨label, whole⟩ := known (stage :: rest) d running
        refine ⟨label, whole.trans ?_⟩
        rw [runStages, staged]
        rfl
    | fail =>
      cases taken
      exact ⟨fun rest d running => (by cases running), .inl rfl⟩

/-- What is committed moves only at the end of a transaction whose stages all succeeded, and then as
the whole transaction moves it. -/
theorem committed_step {start : σ → Prop} {s s' : Session σ δ} {move : Move ℓ}
    (reached : (t.sessions start).Reachable Machine.anyStep s) (taken : t.next s move = some s') :
    s'.committed = s.committed ∨
      move = .advance ∧ (∃ d, s.running = some ([], d)) ∧
        ∃ label, t.whole s.committed label = some s'.committed := by
  rcases committed_or_finished taken with same | ⟨d, ends, running, committed⟩
  · exact .inl same
  · obtain ⟨label, stages⟩ := ((t.committedView start).reachable reached).2 [] d running
    refine .inr ⟨ends, ⟨d, running⟩, label, ?_⟩
    rw [whole, stages, committed]
    rfl

/-- An invariant of whole transactions holds of what is committed in every session. -/
theorem committed_invariant {start : σ → Prop} {holds : σ → Prop}
    (atomic : ∀ s, (t.atomic start).Reachable Machine.anyStep s → holds s)
    {s : Session σ δ} (reached : (t.sessions start).Reachable Machine.anyStep s) :
    holds s.committed :=
  atomic s.committed ((t.committedView start).reachable reached).1

end Transaction

end MarketingOS
