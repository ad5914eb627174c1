import Mathlib.Logic.Function.Basic
import MarketingOS.Base.Machine

/-!
# Tokens scoped to an epoch

A resource has an epoch, and a token signed for a resource at an epoch is accepted while that is the
resource's epoch. Raising the epoch revokes every token there is. Tokens are handed out at the
current epoch or at the first one, whichever the issuer goes by.
-/
namespace MarketingOS.EpochTokens

variable {ι τ : Type}

/-- The epochs of the resources there are, the names that were used, and the tokens handed out. -/
structure State (ι τ : Type) where
  epoch : ι → Option Nat
  used : List ι
  issued : List (ι × τ)

/-- One step. -/
inductive Label (ι : Type) where
  /-- A new resource, with its token. -/
  | create (i : ι)
  /-- Raise the epoch of a resource, and hand out its new token. -/
  | bump (i : ι)
  | drop (i : ι)
  /-- Hand out tokens, each for a resource at an epoch. -/
  | issue (tokens : List (ι × Nat))

/-- Whether a token is accepted for a resource. -/
def Accepts (sign : ι → Nat → τ) (s : State ι τ) (i : ι) (token : τ) : Prop :=
  ∃ e, s.epoch i = some e ∧ token = sign i e

/-- A token that is accepted at no epoch from the resource's epoch on. -/
def Dead (sign : ι → Nat → τ) (s : State ι τ) (i : ι) (token : τ) : Prop :=
  i ∈ s.used ∧ ∃ e, token = sign i e ∧ ∀ now, s.epoch i = some now → e < now

/-- A token was signed at its resource's epoch or before, or at the first epoch under a name that was
never used. -/
def Bounded (sign : ι → Nat → τ) (s : State ι τ) (i : ι) (token : τ) : Prop :=
  ∃ e, token = sign i e ∧ (∀ now, s.epoch i = some now → e ≤ now) ∧ (i ∉ s.used → e = 0)

/-- Every resource has a used name, and every token is bounded. -/
structure Sound (sign : ι → Nat → τ) (s : State ι τ) : Prop where
  used : ∀ i e, s.epoch i = some e → i ∈ s.used
  issued : ∀ entry ∈ s.issued, Bounded sign s entry.1 entry.2

variable {sign : ι → Nat → τ} {s s' : State ι τ} {i : ι} {token : τ}

/-- What a step does: epochs of used names only grow or go, and a name is taken once, at the first
epoch. -/
structure Grows (s s' : State ι τ) : Prop where
  used : ∀ i ∈ s.used, i ∈ s'.used
  later : ∀ i now, s'.epoch i = some now →
    (∃ e, s.epoch i = some e ∧ e ≤ now) ∨ (i ∉ s.used ∧ i ∈ s'.used ∧ now = 0)

/-- A bounded token stays bounded. -/
theorem Bounded.grows (bounded : Bounded sign s i token) (grows : Grows s s') :
    Bounded sign s' i token := by
  obtain ⟨e, signed, bound, fresh⟩ := bounded
  refine ⟨e, signed, ?_, fun unused => fresh fun inside => unused (grows.used i inside)⟩
  intro now stands
  rcases grows.later i now stands with ⟨before, old, le⟩ | ⟨unused, -, -⟩
  · exact Nat.le_trans (bound before old) le
  · rw [fresh unused]
    exact Nat.zero_le _

/-- A dead token stays dead. -/
theorem Dead.grows (dead : Dead sign s i token) (grows : Grows s s') : Dead sign s' i token := by
  obtain ⟨used, e, signed, bound⟩ := dead
  refine ⟨grows.used i used, e, signed, ?_⟩
  intro now stands
  rcases grows.later i now stands with ⟨before, old, le⟩ | ⟨unused, -, -⟩
  · exact Nat.lt_of_lt_of_le (bound before old) le
  · exact absurd used unused

/-- A dead token is not accepted. -/
theorem Dead.not_accepts (injective : ∀ i, Function.Injective (sign i))
    (dead : Dead sign s i token) : ¬Accepts sign s i token := by
  rintro ⟨now, current, signed⟩
  obtain ⟨-, e, signed', bound⟩ := dead
  have same : now = e := injective i (signed.symm.trans signed')
  have less := bound now current
  omega

/-! ## Steps -/

variable [DecidableEq ι]

/-- The step function. -/
def next (sign : ι → Nat → τ) (s : State ι τ) : Label ι → Option (State ι τ)
  | .create i =>
    if i ∈ s.used then none
    else some ⟨Function.update s.epoch i (some 0), i :: s.used, s.issued ++ [(i, sign i 0)]⟩
  | .bump i => (s.epoch i).map fun e =>
    { s with
      epoch := Function.update s.epoch i (some (e + 1))
      issued := s.issued ++ [(i, sign i (e + 1))] }
  | .drop i => some { s with epoch := Function.update s.epoch i none }
  | .issue tokens =>
    if ∀ token ∈ tokens, token.2 = 0 ∨ s.epoch token.1 = some token.2 then
      some { s with issued := s.issued ++ tokens.map fun token => (token.1, sign token.1 token.2) }
    else none

/-- Resources come and go, from none. -/
def machine (sign : ι → Nat → τ) : Machine (State ι τ) (Label ι) where
  start s := (∀ i, s.epoch i = none) ∧ s.issued = []
  next := next sign

/-- The epochs after one of them has changed. -/
theorem update_some {f : ι → Option Nat} {i j : ι} {value : Option Nat} {now : Nat}
    (stands : Function.update f i value j = some now) :
    (j = i ∧ value = some now) ∨ (j ≠ i ∧ f j = some now) := by
  by_cases same : j = i
  · subst same
    rw [Function.update_self] at stands
    exact .inl ⟨rfl, stands⟩
  · rw [Function.update_of_ne same] at stands
    exact .inr ⟨same, stands⟩

/-- Every step lets epochs grow. -/
theorem grows_of_next {label : Label ι} (taken : (machine sign).next s label = some s') :
    Grows s s' := by
  cases label with
  | create i =>
    simp only [machine, next, Option.ite_none_left_eq_some, Option.some.injEq] at taken
    obtain ⟨fresh, rfl⟩ := taken
    refine ⟨fun j inside => List.mem_cons_of_mem _ inside, ?_⟩
    intro j now stands
    rcases update_some stands with ⟨rfl, value⟩ | ⟨-, old⟩
    · exact .inr ⟨fresh, List.mem_cons_self, (Option.some.inj value).symm⟩
    · exact .inl ⟨now, old, Nat.le_refl _⟩
  | bump i =>
    obtain ⟨e, current, rfl⟩ := Option.map_eq_some_iff.mp taken
    refine ⟨fun j inside => inside, ?_⟩
    intro j now stands
    rcases update_some stands with ⟨rfl, value⟩ | ⟨-, old⟩
    · have raised : e + 1 = now := Option.some.inj value
      exact .inl ⟨e, current, by omega⟩
    · exact .inl ⟨now, old, Nat.le_refl _⟩
  | drop i =>
    obtain rfl := Option.some.inj taken
    refine ⟨fun j inside => inside, ?_⟩
    intro j now stands
    rcases update_some stands with ⟨-, value⟩ | ⟨-, old⟩
    · cases value
    · exact .inl ⟨now, old, Nat.le_refl _⟩
  | issue tokens =>
    simp only [machine, next, Option.ite_none_right_eq_some, Option.some.injEq] at taken
    obtain ⟨-, rfl⟩ := taken
    exact ⟨fun j inside => inside, fun j now stands => .inl ⟨now, stands, Nat.le_refl _⟩⟩

/-- The tokens a step hands out are bounded after it. -/
theorem bounded_of_new {label : Label ι} (sound : Sound sign s)
    (taken : (machine sign).next s label = some s') :
    ∀ entry ∈ s'.issued, entry ∈ s.issued ∨ Bounded sign s' entry.1 entry.2 := by
  intro entry inside
  cases label with
  | create i =>
    simp only [machine, next, Option.ite_none_left_eq_some, Option.some.injEq] at taken
    obtain ⟨-, rfl⟩ := taken
    rcases List.mem_append.mp inside with before | new
    · exact .inl before
    · obtain rfl := List.mem_singleton.mp new
      exact .inr ⟨0, rfl, fun now _ => Nat.zero_le now, fun _ => rfl⟩
  | bump i =>
    obtain ⟨e, current, rfl⟩ := Option.map_eq_some_iff.mp taken
    rcases List.mem_append.mp inside with before | new
    · exact .inl before
    · obtain rfl := List.mem_singleton.mp new
      refine .inr ⟨e + 1, rfl, ?_, fun unused => absurd (sound.used i e current) unused⟩
      intro now stands
      have value : Function.update s.epoch i (some (e + 1)) i = some now := stands
      rw [Function.update_self] at value
      exact Nat.le_of_eq (Option.some.inj value)
  | drop i =>
    obtain rfl := Option.some.inj taken
    exact .inl inside
  | issue tokens =>
    simp only [machine, next, Option.ite_none_right_eq_some, Option.some.injEq] at taken
    obtain ⟨fair, rfl⟩ := taken
    rcases List.mem_append.mp inside with before | new
    · exact .inl before
    · obtain ⟨⟨j, e⟩, listed, rfl⟩ := List.mem_map.mp new
      refine .inr ⟨e, rfl, ?_, ?_⟩
      · intro now stands
        rcases fair _ listed with first | current
        · rw [show e = 0 from first]
          exact Nat.zero_le now
        · exact Nat.le_of_eq (Option.some.inj (current.symm.trans stands))
      · intro unused
        rcases fair _ listed with first | current
        · exact first
        · exact absurd (sound.used j e current) unused

/-- The step lemma: every step keeps the state sound. -/
theorem next_sound (s : State ι τ) (label : Label ι) (s' : State ι τ) (sound : Sound sign s)
    (taken : (machine sign).next s label = some s') : Sound sign s' := by
  have grows := grows_of_next taken
  refine ⟨?_, ?_⟩
  · intro i now stands
    rcases grows.later i now stands with ⟨e, old, -⟩ | ⟨-, used, -⟩
    · exact grows.used i (sound.used i e old)
    · exact used
  · intro entry inside
    rcases bounded_of_new sound taken entry inside with before | new
    · exact (sound.issued entry before).grows grows
    · exact new

/-- Every reachable state is sound. -/
theorem sound_of_reachable (reached : (machine sign).Reachable Machine.anyStep s) :
    Sound sign s := by
  apply reached.invariant (Sound sign)
  · rintro s ⟨none, empty⟩
    refine ⟨fun i e stands => ?_, fun entry inside => ?_⟩
    · rw [none] at stands
      cases stands
    · rw [empty] at inside
      cases inside
  · exact fun s label s' sound _ taken => next_sound s label s' sound taken

/-- Raising the epoch of a resource kills every token handed out for it before. -/
theorem dead_of_bump (sound : Sound sign s) (taken : (machine sign).next s (.bump i) = some s')
    (handed : (i, token) ∈ s.issued) : Dead sign s' i token := by
  obtain ⟨e, signed, bound, -⟩ := sound.issued _ handed
  obtain ⟨now, current, rfl⟩ := Option.map_eq_some_iff.mp taken
  refine ⟨sound.used i now current, e, signed, ?_⟩
  intro later stands
  have raised : Function.update s.epoch i (some (now + 1)) i = some later := stands
  rw [Function.update_self] at raised
  have le := bound now current
  have next : now + 1 = later := Option.some.inj raised
  omega

/-- A token handed out before the epoch of its resource was raised is never accepted again. -/
theorem revoked_for_good (injective : ∀ i, Function.Injective (sign i)) {last : State ι τ}
    {labels : List (Label ι)} (reached : (machine sign).Reachable Machine.anyStep s)
    (handed : (i, token) ∈ s.issued) (taken : (machine sign).next s (.bump i) = some s')
    (run : (machine sign).Run Machine.anyStep s' labels last) : ¬Accepts sign last i token := by
  have dead := dead_of_bump (sound_of_reachable reached) taken handed
  have stays := run.preserves (fun _ _ _ dead _ taken => Dead.grows dead (grows_of_next taken)) dead
  exact Dead.not_accepts injective stays

end MarketingOS.EpochTokens
