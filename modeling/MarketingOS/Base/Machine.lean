/-!
# Machines, runs and invariants

A machine takes one labelled step at a time from a set of start states. Everything a step
reads from outside (a clock, a fresh identifier, a decision of another party) is part of its
label, so one label has at most one next state and a run is a list of labels. A property of
runs is stated over the runs whose steps all meet a guard; the trivial guard gives every run.
-/
namespace MarketingOS

/-- A labelled machine: its start states and its partial step function. -/
structure Machine (σ ℓ : Type) where
  /-- States a run may begin in. -/
  start : σ → Prop
  /-- The state after one step, or nothing when the step is not enabled. -/
  next : σ → ℓ → Option σ

namespace Machine

variable {σ ℓ : Type} (m : Machine σ ℓ)

/-- A condition on a state and the step taken from it. -/
abbrev Guard (σ ℓ : Type) : Type := σ → ℓ → Prop

/-- The guard every step meets. -/
def anyStep : Guard σ ℓ := fun _ _ => True

/-- A run from one state to another whose steps all meet the guard. -/
inductive Run (allowed : Guard σ ℓ) : σ → List ℓ → σ → Prop where
  /-- No step is taken. -/
  | nil (s : σ) : Run allowed s [] s
  /-- One step, then the rest of the run. -/
  | cons {s middle last : σ} {label : ℓ} {labels : List ℓ} (meets : allowed s label)
      (taken : m.next s label = some middle) (rest : Run allowed middle labels last) :
      Run allowed s (label :: labels) last

/-- A state some run from a start state leads to. -/
def Reachable (allowed : Guard σ ℓ) (s : σ) : Prop :=
  ∃ first labels, m.start first ∧ m.Run allowed first labels s

/-- Take the steps of a list in turn; nothing when one of them is not enabled or does not meet
the guard. -/
def play (allowed : Guard σ ℓ) [∀ s label, Decidable (allowed s label)] : σ → List ℓ → Option σ
  | s, [] => some s
  | s, label :: labels =>
    if allowed s label then (m.next s label).bind fun middle => play allowed middle labels else none

instance (s : σ) (label : ℓ) : Decidable (anyStep s label) := .isTrue trivial

variable {m} {allowed : Guard σ ℓ}

/-- A start state is reachable. -/
theorem reachable_start {s : σ} (first : m.start s) : m.Reachable allowed s :=
  ⟨s, [], first, .nil s⟩

/-- Two runs that meet make one run. -/
theorem Run.append {s middle last : σ} {early late : List ℓ} (front : m.Run allowed s early middle)
    (back : m.Run allowed middle late last) : m.Run allowed s (early ++ late) last := by
  induction front with
  | nil s => exact back
  | cons meets taken rest ih => exact .cons meets taken (ih back)

/-- A run over two lists of labels passes a state between them. -/
theorem Run.split {s last : σ} {early late : List ℓ} (run : m.Run allowed s (early ++ late) last) :
    ∃ middle, m.Run allowed s early middle ∧ m.Run allowed middle late last := by
  induction early generalizing s with
  | nil => exact ⟨s, .nil s, run⟩
  | cons label early ih =>
    cases run with
    | cons meets taken rest =>
      obtain ⟨middle, front, back⟩ := ih rest
      exact ⟨middle, .cons meets taken front, back⟩

/-- A reachable state followed by one step the guard allows is reachable. -/
theorem Reachable.step {s s' : σ} {label : ℓ} (reached : m.Reachable allowed s)
    (meets : allowed s label) (taken : m.next s label = some s') : m.Reachable allowed s' := by
  obtain ⟨first, labels, started, run⟩ := reached
  exact ⟨first, labels ++ [label], started, run.append (.cons meets taken (.nil s'))⟩

/-- What every allowed step keeps, a whole run keeps. -/
theorem Run.preserves {holds : σ → Prop}
    (step : ∀ s label s', holds s → allowed s label → m.next s label = some s' → holds s')
    {s last : σ} {labels : List ℓ} (run : m.Run allowed s labels last) (before : holds s) :
    holds last := by
  induction run with
  | nil s => exact before
  | cons meets taken rest ih => exact ih (step _ _ _ before meets taken)

/-- The invariant rule: what holds at every start and is kept by every allowed step holds in
every reachable state. -/
theorem Reachable.invariant (holds : σ → Prop) (initial : ∀ s, m.start s → holds s)
    (step : ∀ s label s', holds s → allowed s label → m.next s label = some s' → holds s')
    {s : σ} (reached : m.Reachable allowed s) : holds s := by
  obtain ⟨first, labels, started, run⟩ := reached
  exact run.preserves step (initial first started)

/-- The invariant rule with what is already known of reachable states: a step is only looked at
in a state that is reachable itself. -/
theorem Reachable.induction (holds : σ → Prop) (initial : ∀ s, m.start s → holds s)
    (step : ∀ s label s', m.Reachable allowed s → holds s → allowed s label →
      m.next s label = some s' → holds s')
    {s : σ} (reached : m.Reachable allowed s) : holds s := by
  have both : m.Reachable allowed s ∧ holds s := by
    apply reached.invariant fun s => m.Reachable allowed s ∧ holds s
    · intro s first
      exact ⟨reachable_start first, initial s first⟩
    · rintro s label s' ⟨before, known⟩ meets taken
      exact ⟨before.step meets taken, step s label s' before known meets taken⟩
  exact both.2

/-- A run that meets a guard is a run. -/
theorem Run.any {s last : σ} {labels : List ℓ} (run : m.Run allowed s labels last) :
    m.Run anyStep s labels last := by
  induction run with
  | nil s => exact .nil s
  | cons _ taken _ ih => exact .cons trivial taken ih

/-- When a step turns out well exactly if it meets a guard, all steps of a run turn out well exactly
if they all meet it. -/
theorem Run.steps_iff {well : ℓ → σ → Prop}
    (judged : ∀ s label s', m.next s label = some s' → (well label s' ↔ allowed s label))
    {s last : σ} {labels : List ℓ} (run : m.Run anyStep s labels last) :
    (∀ front label back middle after, labels = front ++ label :: back →
        m.Run anyStep s front middle → m.next middle label = some after → well label after) ↔
      m.Run allowed s labels last := by
  induction run with
  | nil s =>
    refine ⟨fun _ => .nil s, fun _ front label back middle after parts => ?_⟩
    exact absurd parts.symm (by simp)
  | @cons s next last first labels _ taken rest ih =>
    constructor
    · intro all
      have meets := (judged s first next taken).mp (all [] first labels s next rfl (.nil s) taken)
      refine .cons meets taken (ih.mp ?_)
      intro front label back middle after parts early
      exact all (first :: front) label back middle after (by rw [parts]; rfl)
        (.cons trivial taken early)
    · intro guarded front label back middle after parts early step
      cases guarded with
      | cons meets taken' guarded =>
        obtain rfl := Option.some.inj (taken.symm.trans taken')
        cases early with
        | nil =>
          obtain ⟨rfl, rfl⟩ := List.cons.inj parts
          exact (judged _ _ _ step).mpr meets
        | cons _ other early =>
          obtain ⟨rfl, behind⟩ := List.cons.inj parts
          obtain rfl := Option.some.inj (taken.symm.trans other)
          exact ih.mpr guarded _ _ _ _ _ behind early step

/-- When a step from a good state leads to a good state exactly if it meets a guard, a run passes
good states only exactly if all its steps meet the guard. -/
theorem Run.passes_iff {holds : σ → Prop}
    (exact : ∀ s label s', holds s → m.next s label = some s' → (holds s' ↔ allowed s label))
    {s last : σ} {labels : List ℓ} (run : m.Run anyStep s labels last) (before : holds s) :
    (∀ early middle, early <+: labels → m.Run anyStep s early middle → holds middle) ↔
      m.Run allowed s labels last := by
  induction run with
  | nil s =>
    constructor
    · exact fun _ => .nil s
    · intro _ early middle short front
      rw [List.prefix_nil.mp short] at front
      cases front
      exact before
  | @cons s middle last label labels _ taken rest ih =>
    constructor
    · intro passes
      have after : holds middle :=
        passes [label] middle (List.prefix_append [label] labels) (.cons trivial taken (.nil _))
      have later : m.Run allowed middle labels last := by
        apply (ih after).mp
        intro early stop short front
        exact passes (label :: early) stop (List.prefix_cons_inj label |>.mpr short)
          (.cons trivial taken front)
      exact .cons ((exact s label middle before taken).mp after) taken later
    · intro guarded early stop short front
      cases guarded with
      | cons meets taken' later =>
        obtain rfl := Option.some.inj (taken.symm.trans taken')
        have after : holds middle := (exact s label middle before taken).mpr meets
        cases front with
        | nil => exact before
        | cons _ moved back =>
          obtain ⟨rfl, shorter⟩ := List.cons_prefix_cons.mp short
          obtain rfl := Option.some.inj (taken.symm.trans moved)
          exact (ih after).mpr later _ stop shorter back

/-- Playing a list of labels is a run. -/
theorem run_of_play [∀ s label, Decidable (allowed s label)] {s last : σ} {labels : List ℓ}
    (played : m.play allowed s labels = some last) : m.Run allowed s labels last := by
  induction labels generalizing s with
  | nil =>
    obtain rfl := Option.some.inj played
    exact .nil s
  | cons label labels ih =>
    simp only [play, Option.ite_none_right_eq_some, Option.bind_eq_some_iff] at played
    obtain ⟨meets, middle, taken, rest⟩ := played
    exact .cons meets taken (ih rest)

/-- A view of a concrete machine under which its allowed steps, taken from states that meet an
invariant, are steps of an abstract machine or are not seen. -/
structure Simulation {τ κ : Type} (concrete : Machine σ ℓ) (abstract : Machine τ κ)
    (allowed : Guard σ ℓ) (permitted : Guard τ κ) where
  view : σ → τ
  /-- An invariant of the concrete machine that its steps may rely on. -/
  invariant : σ → Prop
  start : ∀ s, concrete.start s → abstract.start (view s) ∧ invariant s
  step : ∀ s label s', invariant s → allowed s label → concrete.next s label = some s' →
    invariant s' ∧ (view s' = view s ∨
      ∃ seen, permitted (view s) seen ∧ abstract.next (view s) seen = some (view s'))

/-- What a simulation shows of a reachable state is reachable, and the invariant holds there. -/
theorem Simulation.reachable {τ κ : Type} {concrete : Machine σ ℓ} {abstract : Machine τ κ}
    {allowed : Guard σ ℓ} {permitted : Guard τ κ}
    (sim : Simulation concrete abstract allowed permitted) {s : σ}
    (reached : concrete.Reachable allowed s) :
    abstract.Reachable permitted (sim.view s) ∧ sim.invariant s := by
  apply reached.invariant
  · intro s first
    exact ⟨reachable_start (sim.start s first).1, (sim.start s first).2⟩
  · intro s label s' before meets taken
    obtain ⟨kept, same | ⟨seen, permits, moved⟩⟩ := sim.step s label s' before.2 meets taken
    · exact ⟨same ▸ before.1, kept⟩
    · exact ⟨before.1.step permits moved, kept⟩

/-- What a simulation shows of a run is a run. -/
theorem Simulation.run {τ κ : Type} {concrete : Machine σ ℓ} {abstract : Machine τ κ}
    {allowed : Guard σ ℓ} {permitted : Guard τ κ}
    (sim : Simulation concrete abstract allowed permitted) {s last : σ} {labels : List ℓ}
    (before : sim.invariant s) (run : concrete.Run allowed s labels last) :
    ∃ seen, abstract.Run permitted (sim.view s) seen (sim.view last) := by
  induction run with
  | nil s => exact ⟨[], .nil _⟩
  | cons meets taken rest ih =>
    obtain ⟨kept, same | ⟨label, permits, moved⟩⟩ := sim.step _ _ _ before meets taken
    · exact same ▸ ih kept
    · obtain ⟨seen, later⟩ := ih kept
      exact ⟨label :: seen, .cons permits moved later⟩

/-- A machine that keeps a log of what its steps record, which no step reads. -/
def logged {τ : Type} (m : Machine σ ℓ) (record : σ → ℓ → List τ) : Machine (σ × List τ) ℓ where
  start s := m.start s.1 ∧ s.2 = []
  next s label := (m.next s.1 label).map fun s' => (s', s.2 ++ record s.1 label)

/-- Logging changes nothing of what is reachable. -/
theorem reachable_of_logged {τ : Type} {record : σ → ℓ → List τ} {guard : Guard (σ × List τ) ℓ}
    {s : σ × List τ} (reached : (m.logged record).Reachable guard s) :
    m.Reachable anyStep s.1 := by
  apply reached.invariant fun s => m.Reachable anyStep s.1
  · exact fun s first => reachable_start first.1
  · intro s label s' before _ taken
    obtain ⟨middle, moved, rfl⟩ := Option.map_eq_some_iff.mp taken
    exact before.step trivial moved

/-- A run can be logged. -/
theorem Run.log {τ : Type} {record : σ → ℓ → List τ} {s last : σ} {labels : List ℓ}
    (run : m.Run anyStep s labels last) (log : List τ) :
    ∃ log', (m.logged record).Run anyStep (s, log) labels (last, log') := by
  induction run generalizing log with
  | nil s => exact ⟨log, .nil _⟩
  | @cons s middle last label labels meets taken rest ih =>
    obtain ⟨log', later⟩ := ih (log ++ record s label)
    exact ⟨log', .cons trivial (Option.map_eq_some_iff.mpr ⟨middle, taken, rfl⟩) later⟩

end Machine

end MarketingOS
