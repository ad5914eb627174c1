import MarketingOS.Base.Machine

/-!
# An effect with a receipt

Any number of parties may perform an effect that should happen once. A party looks for a receipt
first, performs the effect, and writes the receipt afterwards; nothing is held in between, and a
party may leave at any time, writing over the receipt what it knows. A party that finds nothing to
do writes the receipt without the effect.

The effect happens at most once when it is performed by a party that is the only one inside, and
from then on nobody looks before that party has written the receipt.
-/
namespace MarketingOS.ReceiptOnce

variable {ι : Type}

/-- How far one party has come. -/
inductive Party where
  | outside
  | looked
  | acted
  | done
deriving DecidableEq

/-- Whether a party is between its look and its end. -/
def Party.inside : Party → Bool
  | .looked | .acted => true
  | _ => false

/-- The receipt, every party, and how often the effect has happened. -/
@[ext]
structure State (ι : Type) where
  receipt : Bool
  party : ι → Party
  effects : Nat

/-- One step of one party. -/
inductive Label (ι : Type) where
  | look (i : ι) (enters : Bool)
  | act (i : ι)
  | write (i : ι)
  | leave (i : ι) (clears : Bool)

variable [DecidableEq ι]

/-- The state after a party has moved. -/
def State.move (s : State ι) (i : ι) (place : Party) : State ι :=
  { s with party := fun j => if j = i then place else s.party j }

/-- The party that moved. -/
@[simp] theorem State.move_same (s : State ι) (i : ι) (place : Party) :
    (s.move i place).party i = place := if_pos rfl

/-- The parties that did not move. -/
theorem State.move_other (s : State ι) {i j : ι} (place : Party) (apart : j ≠ i) :
    (s.move i place).party j = s.party j := if_neg apart

/-- What holds of the new place and of every other party holds of all parties after a move. -/
theorem State.forall_move (holds : Party → Prop) {s : State ι} {i : ι} {place : Party}
    (moved : holds place) (others : ∀ j, j ≠ i → holds (s.party j)) :
    ∀ j, holds ((s.move i place).party j) := by
  intro j
  by_cases same : j = i
  · subst same
    rwa [State.move_same]
  · rw [State.move_other s place same]
    exact others j same

/-- A party that moves to where it is moves nothing. -/
theorem State.move_self {s : State ι} {i : ι} {place : Party} (there : s.party i = place) :
    s.move i place = s := by
  ext j
  · rfl
  · by_cases same : j = i
    · subst same
      rw [State.move_same, there]
    · rw [State.move_other s place same]
  · rfl

/-- The parties of a list of runs; a place without a run is outside. -/
def parties {ρ : Type} (party : ρ → Party) (runs : List ρ) (r : Nat) : Party :=
  (runs[r]?.map party).getD .outside

section Runs

variable {ρ : Type} {party : ρ → Party} {runs : List ρ} {r : Nat} {run : ρ}

/-- The party of a run. -/
theorem parties_of_get (place : runs[r]? = some run) : parties party runs r = party run := by
  simp [parties, place]

/-- What holds of every run and of a place outside holds of every party. -/
theorem parties_forall (holds : Party → Prop) (outside : holds .outside)
    (every : ∀ (r : Nat) (run : ρ), runs[r]? = some run → holds (party run)) (r : Nat) :
    holds (parties party runs r) := by
  cases place : runs[r]? with
  | none => simpa [parties, place] using outside
  | some run =>
    rw [parties_of_get place]
    exact every r run place

/-- The parties after a run has moved. -/
theorem parties_set (was : runs[r]? = some run) (run' : ρ) :
    parties party (runs.set r run') =
      fun other => if other = r then party run' else parties party runs other := by
  have inside : r < runs.length := (List.getElem?_eq_some_iff.mp was).1
  funext other
  by_cases same : other = r
  · subst same
    simp [parties, List.getElem?_set_self inside]
  · simp [parties, List.getElem?_set_ne (Ne.symm same), same]

end Runs

/-- One step: a look that finds the receipt is the end of its party, and so is one after which
the party does not enter for a reason of its own. -/
def next (s : State ι) : Label ι → Option (State ι)
  | .look i enters =>
    if s.party i = .outside then
      some (s.move i (if s.receipt || !enters then .done else .looked))
    else none
  | .act i =>
    if s.party i = .looked then some { s.move i .acted with effects := s.effects + 1 } else none
  | .write i =>
    if (s.party i).inside then some { s.move i .done with receipt := true } else none
  | .leave i clears =>
    if (s.party i).inside then some { s.move i .done with receipt := s.receipt && !clears }
    else none

/-- The machine, with no effect yet and every party outside. -/
def machine (ι : Type) [DecidableEq ι] : Machine (State ι) (Label ι) where
  start s := s.effects = 0 ∧ ∀ i, s.party i = .outside
  next := next

/-- Nobody looks while a party has acted and not written its receipt; a party acts while it is
the only one inside; and a party that has acted writes its receipt. -/
def Careful (s : State ι) : Label ι → Prop
  | .look _ _ => ∀ j, s.party j ≠ .acted
  | .act i => ∀ j, j ≠ i → (s.party j).inside = false
  | .write _ => True
  | .leave i _ => s.party i ≠ .acted

/-- How the effect stands. -/
inductive Standing (s : State ι) : Prop where
  /-- It has not happened. -/
  | before (none : s.effects = 0) (idle : ∀ i, s.party i ≠ .acted)
  /-- A party has performed it and is the only one inside. -/
  | acting (once : s.effects = 1) (i : ι) (acted : s.party i = .acted)
    (alone : ∀ j, j ≠ i → (s.party j).inside = false)
  /-- Its receipt is written and nobody is inside. -/
  | received (once : s.effects = 1) (receipt : s.receipt = true)
    (clear : ∀ i, (s.party i).inside = false)

/-- Every careful step keeps the standing. -/
theorem standing_step (s : State ι) (label : Label ι) (s' : State ι) (holds : Standing s)
    (meets : Careful s label) (taken : next s label = some s') : Standing s' := by
  cases label with
  | look i enters =>
    simp only [next, Option.ite_none_right_eq_some, Option.some.injEq] at taken
    obtain ⟨outside, rfl⟩ := taken
    cases holds with
    | before none idle =>
      refine .before none (State.forall_move (· ≠ .acted) ?_ fun j _ => idle j)
      split <;> simp
    | acting once j acted alone => exact absurd acted (meets j)
    | received once receipt clear =>
      refine .received once receipt
        (State.forall_move (·.inside = false) ?_ fun j _ => clear j)
      simp [receipt, Party.inside]
  | act i =>
    simp only [next, Option.ite_none_right_eq_some, Option.some.injEq] at taken
    obtain ⟨looked, rfl⟩ := taken
    have inside : (s.party i).inside = true := by
      rw [looked]
      rfl
    cases holds with
    | before none idle =>
      refine .acting (by simp [none]) i (State.move_same s i .acted) fun j apart => ?_
      exact (congrArg Party.inside (State.move_other s .acted apart)).trans (meets j apart)
    | acting once j acted alone =>
      have apart : i ≠ j := by
        rintro rfl
        simp [looked] at acted
      exact absurd inside (by simp [alone i apart])
    | received once receipt clear => exact absurd inside (by simp [clear i])
  | write i =>
    simp only [next, Option.ite_none_right_eq_some, Option.some.injEq] at taken
    obtain ⟨inside, rfl⟩ := taken
    cases holds with
    | before none idle =>
      exact .before none (State.forall_move (· ≠ .acted) (by decide) fun j _ => idle j)
    | acting once j actedJ alone =>
      have own : i = j := by
        by_cases same : i = j
        · exact same
        · exact absurd inside (by simp [alone i same])
      subst own
      exact .received once rfl (State.forall_move (·.inside = false) rfl alone)
    | received once receipt clear => exact absurd inside (by simp [clear i])
  | leave i clears =>
    simp only [next, Option.ite_none_right_eq_some, Option.some.injEq] at taken
    obtain ⟨inside, rfl⟩ := taken
    cases holds with
    | before none idle =>
      exact .before none (State.forall_move (· ≠ .acted) (by decide) fun j _ => idle j)
    | acting once j acted alone =>
      have apart : i ≠ j := by
        rintro rfl
        exact meets acted
      exact absurd inside (by simp [alone i apart])
    | received once receipt clear => exact absurd inside (by simp [clear i])

/-- In every state careful steps lead to, the effect has its standing. -/
theorem standing_of_reachable {s : State ι}
    (reached : (machine ι).Reachable (Careful (ι := ι)) s) : Standing s := by
  apply reached.invariant
  · rintro s ⟨none, outside⟩
    exact .before none (by simp [outside])
  · exact fun s label s' holds meets taken => standing_step s label s' holds meets taken

/-- Careful parties perform the effect at most once. -/
theorem effects_le_one {s : State ι} (reached : (machine ι).Reachable (Careful (ι := ι)) s) :
    s.effects ≤ 1 := by
  cases standing_of_reachable reached with
  | before none idle => omega
  | acting once i acted alone => omega
  | received once receipt clear => omega

end MarketingOS.ReceiptOnce
