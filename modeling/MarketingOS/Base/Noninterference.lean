import MarketingOS.Base.Machine

/-!
# Leaving parties out of a run

Whether the steps of some parties can be noticed by others. A machine is unwound into the steps that
are kept and those that are left out, and into the part of its state that the kept steps work on.
When no other step writes to that part, and the kept steps do to it and record what they would do
and record on it alone, the run without the other steps records the same.
-/
namespace MarketingOS.Machine

variable {σ ℓ τ : Type}

/-- A division of a machine's steps and of its states. The steps are taken where a guard allows
them and an invariant holds. -/
structure Unwinding (m : Machine σ ℓ) (allowed : Guard σ ℓ) (record : σ → ℓ → List τ) where
  /-- Whether a step is kept. -/
  kept : ℓ → Bool
  /-- The part of a state the kept steps work on. -/
  restrict : σ → σ
  invariant : σ → Prop
  preserved : ∀ s label s', invariant s → allowed s label → m.next s label = some s' → invariant s'
  follows : ∀ s label s', invariant s → allowed s label → m.next s label = some s' →
    kept label = true →
    m.next (restrict s) label = some (restrict s') ∧ record (restrict s) label = record s label
  unseen : ∀ s label s', invariant s → allowed s label → m.next s label = some s' →
    kept label = false → restrict s' = restrict s ∧ record s label = []

/-- The kept steps of a run are a run that records the same. -/
theorem Unwinding.purge {m : Machine σ ℓ} {allowed : Guard σ ℓ} {record : σ → ℓ → List τ}
    (parts : Unwinding m allowed record) {s last : σ} {log log' : List τ} {labels : List ℓ}
    (run : (m.logged record).Run (fun s label => allowed s.1 label) (s, log) labels (last, log'))
    (before : parts.invariant s) :
    (m.logged record).Run anyStep (parts.restrict s, log) (labels.filter parts.kept)
      (parts.restrict last, log') := by
  induction labels generalizing s log with
  | nil =>
    cases run
    exact .nil _
  | cons label labels ih =>
    cases run with
    | cons meets taken rest =>
      obtain ⟨middle, moved, rfl⟩ := Option.map_eq_some_iff.mp taken
      have later := ih rest (parts.preserved s label middle before meets moved)
      cases chosen : parts.kept label with
      | true =>
        obtain ⟨follows, same⟩ := parts.follows s label middle before meets moved chosen
        rw [List.filter_cons_of_pos chosen]
        refine .cons trivial (Option.map_eq_some_iff.mpr ⟨_, follows, ?_⟩) later
        rw [same]
      | false =>
        obtain ⟨unmoved, silent⟩ := parts.unseen s label middle before meets moved chosen
        rw [List.filter_cons_of_neg (by rw [chosen]; exact Bool.false_ne_true)]
        rw [unmoved, silent, List.append_nil] at later
        exact later

end MarketingOS.Machine
