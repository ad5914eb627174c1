import Mathlib.Data.List.Forall2

/-!
# Computations that may fail

When a computation returns, part by part. A traversal with `mapM` succeeds exactly when every
element does, and what holds of every result and how each is read off its element carry over to the
list of results.
-/
namespace MarketingOS

section Returning

variable {ε α β : Type}

/-- Whether a computation returns. -/
def Returns (result : Except ε α) : Prop := ∃ value, result = .ok value

/-- A computation whose exceptions are all of a kind. -/
def RaisesOnly (kind : ε → Prop) (result : Except ε α) : Prop :=
  ∀ failure, result = .error failure → kind failure

/-- A value raises nothing. -/
theorem raisesOnly_ok {kind : ε → Prop} (value : α) :
    RaisesOnly kind (.ok value : Except ε α) := by
  rintro _ ⟨⟩

/-- An exception of the kind. -/
theorem raisesOnly_error {kind : ε → Prop} {failure : ε} (isKind : kind failure) :
    RaisesOnly kind (.error failure : Except ε α) := by
  rintro _ ⟨⟩
  exact isKind

/-- Both parts of a computation raise exceptions of the kind. -/
theorem raisesOnly_bind {kind : ε → Prop} {first : Except ε α} {next : α → Except ε β}
    (front : RaisesOnly kind first) (rest : ∀ value, RaisesOnly kind (next value)) :
    RaisesOnly kind (first >>= next) := by
  cases first with
  | error failure => exact raisesOnly_error (front failure rfl)
  | ok value => exact rest value

/-- The exceptions of a loop are those of its steps. -/
theorem raisesOnly_foldlM {kind : ε → Prop} {step : β → α → Except ε β}
    (each : ∀ acc x, RaisesOnly kind (step acc x)) (xs : List α) (acc : β) :
    RaisesOnly kind (xs.foldlM step acc) := by
  induction xs generalizing acc with
  | nil => exact raisesOnly_ok acc
  | cons x xs ih =>
    rw [List.foldlM_cons]
    exact raisesOnly_bind (each acc x) ih

end Returning

namespace Traverse

variable {ε α β γ : Type}

/-- Going through a list fails at no element when none fails. -/
theorem mapM_of_each (run : α → Except ε β) (good : β → Prop) (read : β → γ) (expected : α → γ)
    {xs : List α} (each : ∀ x ∈ xs, ∃ y, run x = .ok y ∧ good y ∧ read y = expected x) :
    ∃ ys, xs.mapM run = .ok ys ∧ (∀ y ∈ ys, good y) ∧ ys.map read = xs.map expected := by
  induction xs with
  | nil => exact ⟨[], rfl, by simp, rfl⟩
  | cons x xs ih =>
    obtain ⟨y, isY, goodY, readY⟩ := each x List.mem_cons_self
    obtain ⟨ys, isYs, goodYs, readYs⟩ := ih fun x inside => each x (List.mem_cons_of_mem _ inside)
    refine ⟨y :: ys, ?_, ?_, by simp [readY, readYs]⟩
    · rw [List.mapM_cons, isY, isYs]
      rfl
    · intro z inside
      obtain rfl | later := List.mem_cons.mp inside
      · exact goodY
      · exact goodYs z later

/-- An element of a list has one that corresponds to it. -/
theorem exists_of_forall₂ {related : α → β → Prop} {xs : List α} {ys : List β}
    (each : List.Forall₂ related xs ys) {x : α} (inside : x ∈ xs) : ∃ y ∈ ys, related x y := by
  induction each with
  | nil => cases inside
  | cons front _ ih =>
    obtain rfl | later := List.mem_cons.mp inside
    · exact ⟨_, List.mem_cons_self, front⟩
    · obtain ⟨y, member, corresponds⟩ := ih later
      exact ⟨y, List.mem_cons_of_mem _ member, corresponds⟩

/-- Going through a list whose elements correspond to those of another gives results that do. -/
theorem mapM_forall₂ {run : α → Except ε β} {related : γ → β → Prop} {xs : List α} {zs : List γ}
    (each : List.Forall₂ (fun x z => ∃ y, run x = .ok y ∧ related z y) xs zs) :
    ∃ ys, xs.mapM run = .ok ys ∧ List.Forall₂ related zs ys := by
  induction each with
  | nil => exact ⟨[], rfl, .nil⟩
  | cons front _ ih =>
    obtain ⟨y, isY, relatedY⟩ := front
    obtain ⟨ys, isYs, relatedYs⟩ := ih
    refine ⟨y :: ys, ?_, .cons relatedY relatedYs⟩
    rw [List.mapM_cons, isY, isYs]
    rfl

/-- Going through a list fails when an element does. -/
theorem mapM_of_failing {run : α → Except ε β} {xs : List α} {x : α} (inside : x ∈ xs)
    (fails : ∃ failure, run x = .error failure) : ∃ failure, xs.mapM run = .error failure := by
  induction xs with
  | nil => cases inside
  | cons first xs ih =>
    rw [List.mapM_cons]
    cases front : run first with
    | error failure => exact ⟨failure, rfl⟩
    | ok y =>
      obtain rfl | later := List.mem_cons.mp inside
      · obtain ⟨failure, raises⟩ := fails
        rw [front] at raises
        cases raises
      · obtain ⟨failure, raises⟩ := ih later
        exact ⟨failure, by rw [raises]; rfl⟩

/-- Going through a list raises what one of its elements raises. -/
theorem mapM_error {run : α → Except ε β} {xs : List α} {failure : ε}
    (fails : xs.mapM run = .error failure) : ∃ x ∈ xs, run x = .error failure := by
  induction xs with
  | nil => cases fails
  | cons x xs ih =>
    rw [List.mapM_cons] at fails
    cases front : run x with
    | error failure' =>
      rw [front] at fails
      cases fails
      exact ⟨x, List.mem_cons_self, front⟩
    | ok y =>
      rw [front] at fails
      cases rest : xs.mapM run with
      | error failure' =>
        rw [rest] at fails
        cases fails
        obtain ⟨z, inside, raises⟩ := ih rest
        exact ⟨z, List.mem_cons_of_mem _ inside, raises⟩
      | ok ys =>
        rw [rest] at fails
        cases fails

/-- The exceptions of a traversal are those of its steps. -/
theorem raisesOnly_mapM {kind : ε → Prop} {run : α → Except ε β}
    (each : ∀ x, RaisesOnly kind (run x)) (xs : List α) : RaisesOnly kind (xs.mapM run) := by
  intro failure fails
  obtain ⟨x, -, failing⟩ := mapM_error fails
  exact each x failure failing

/-- What holds of two elements of a list that are in order holds, in its own terms, of what
corresponds to them. -/
theorem pairwise_of_forall₂ {related : α → β → Prop} {apart : α → α → Prop} {apart' : β → β → Prop}
    (carry : ∀ x x' y y', related x y → related x' y' → apart x x' → apart' y y')
    {xs : List α} {ys : List β} (each : List.Forall₂ related xs ys) (all : xs.Pairwise apart) :
    ys.Pairwise apart' := by
  induction each with
  | nil => exact .nil
  | @cons x y xs ys front rest ih =>
    obtain ⟨first, later⟩ := List.pairwise_cons.mp all
    refine List.pairwise_cons.mpr ⟨fun y' inside => ?_, ih later⟩
    obtain ⟨x', member, corresponds⟩ := exists_of_forall₂ rest.flip inside
    exact carry x x' y y' front corresponds (first x' member)

/-! ## Computations with a state -/

variable {σ : Type}

/-- A computation with a state and then another return what the second returns from where the first
ends. -/
theorem bind_eq_some {first : StateT σ Option α} {next : α → StateT σ Option β} {s s' : σ} {y : β} :
    (first >>= next) s = some (y, s') ↔
      ∃ x middle, first s = some (x, middle) ∧ next x middle = some (y, s') := by
  constructor
  · intro done
    obtain ⟨⟨x, middle⟩, isFirst, isNext⟩ := Option.bind_eq_some_iff.mp done
    exact ⟨x, middle, isFirst, isNext⟩
  · rintro ⟨x, middle, isFirst, isNext⟩
    exact Option.bind_eq_some_iff.mpr ⟨(x, middle), isFirst, isNext⟩

/-- What each element of a list gives wherever it starts corresponds to it along the list. -/
theorem forall₂_of_mapM {run : α → StateT σ Option β} {related : α → β → Prop} {xs : List α}
    (each : ∀ x ∈ xs, ∀ s y s', run x s = some (y, s') → related x y) {s s' : σ} {ys : List β}
    (done : (xs.mapM run) s = some (ys, s')) : List.Forall₂ related xs ys := by
  induction xs generalizing s s' ys with
  | nil =>
    obtain rfl : [] = ys := congrArg Prod.fst (Option.some.inj done)
    exact .nil
  | cons x xs ih =>
    rw [List.mapM_cons] at done
    obtain ⟨y, middle, isFirst, rest⟩ := bind_eq_some.mp done
    obtain ⟨zs, last, isRest, whole⟩ := bind_eq_some.mp rest
    obtain rfl : y :: zs = ys := congrArg Prod.fst (Option.some.inj whole)
    exact .cons (each x List.mem_cons_self s y middle isFirst)
      (ih (fun x inside => each x (List.mem_cons_of_mem _ inside)) isRest)

end Traverse

end MarketingOS
