import MarketingOS.Base.Machine

/-!
# A cell claimed once

Any number of parties contend for one cell. A party that claims it by compare-and-swap wins if
the cell is free, and finishes it later with an outcome. Other parties withdraw the cell, but
they look first and write afterwards, and nothing holds the cell in between.

Whatever the order of steps, at most one party ever wins. If no withdrawal is written after a
claim, the cell also moves one way only, and a withdrawal excludes every claim.
-/
namespace MarketingOS.ClaimOnce

variable {ι ω : Type}

/-- The shared cell. -/
inductive Cell (ω : Type) where
  | free
  | taken
  | finished (outcome : ω)
  | withdrawn
deriving DecidableEq

/-- What one party has done. -/
inductive Party where
  | outside
  | waiting
  | won
  | beaten
  | done
  | looked
  | withdrew
deriving DecidableEq

/-- The cell and every party. -/
@[ext]
structure State (ι ω : Type) where
  cell : Cell ω
  party : ι → Party

/-- One step of one party. -/
inductive Label (ι ω : Type) where
  | enter (i : ι)
  | claim (i : ι)
  | finish (i : ι) (outcome : ω)
  | look (i : ι)
  | withdraw (i : ι)

variable [DecidableEq ι]

/-- The state after a party has moved. -/
def State.move (s : State ι ω) (i : ι) (place : Party) : State ι ω :=
  { s with party := fun j => if j = i then place else s.party j }

/-- The cell of a state whose parties moved. -/
@[simp] theorem State.move_cell (s : State ι ω) (i : ι) (place : Party) :
    (s.move i place).cell = s.cell := rfl

/-- The party that moved. -/
@[simp] theorem State.move_same (s : State ι ω) (i : ι) (place : Party) :
    (s.move i place).party i = place := if_pos rfl

/-- The parties that did not move. -/
theorem State.move_other (s : State ι ω) {i j : ι} (place : Party) (apart : j ≠ i) :
    (s.move i place).party j = s.party j := if_neg apart

/-- A party that moves to where it is moves nothing. -/
theorem State.move_self {s : State ι ω} {i : ι} {place : Party} (there : s.party i = place) :
    s.move i place = s := by
  ext j
  · rfl
  · by_cases same : j = i
    · subst same
      rw [State.move_same, there]
    · rw [State.move_other s place same]

/-- One step: a claim is atomic, a withdrawal writes whatever the cell has become since its
look. The outcomes a finish may have are given. -/
def next (final : ω → Bool) (s : State ι ω) : Label ι ω → Option (State ι ω)
  | .enter i => if s.party i = .outside then some (s.move i .waiting) else none
  | .claim i =>
    if s.party i = .waiting then
      match s.cell with
      | .free => some { s.move i .won with cell := .taken }
      | _ => some (s.move i .beaten)
    else none
  | .finish i outcome =>
    if s.party i = .won ∧ final outcome then
      some { s.move i .done with cell := .finished outcome }
    else none
  | .look i =>
    match s.cell with
    | .free => if s.party i = .outside then some (s.move i .looked) else none
    | _ => none
  | .withdraw i =>
    if s.party i = .looked then some { s.move i .withdrew with cell := .withdrawn } else none

/-- A claim of a cell that is not free is beaten. -/
theorem next_claim_busy {final : ω → Bool} {s : State ι ω} {i : ι} (waiting : s.party i = .waiting)
    (busy : s.cell ≠ .free) : next final s (.claim i) = some (s.move i .beaten) := by
  simp only [next, waiting, ↓reduceIte]

/-- The machine, with a free cell and every party outside. -/
def machine (ι : Type) [DecidableEq ι] {ω : Type} (final : ω → Bool) :
    Machine (State ι ω) (Label ι ω) where
  start s := s.cell = .free ∧ ∀ i, s.party i = .outside
  next := next final

/-- A party that holds the cell, or has held it. -/
def Party.Claimed : Party → Prop
  | .won | .done => True
  | _ => False

/-- One winner at most, and none while the cell is free. -/
structure Exclusive (s : State ι ω) : Prop where
  unique : ∀ i j, (s.party i).Claimed → (s.party j).Claimed → i = j
  busy : s.cell = .free → ∀ i, ¬(s.party i).Claimed

/-- A party that moves without claiming keeps the winner the only one. -/
theorem Exclusive.move {s : State ι ω} (holds : Exclusive s) {i : ι} {place : Party}
    (keeps : place.Claimed → (s.party i).Claimed) : Exclusive (s.move i place) := by
  have back : ∀ j, ((s.move i place).party j).Claimed → (s.party j).Claimed := by
    intro j claimed
    by_cases same : j = i
    · subst same
      rw [State.move_same] at claimed
      exact keeps claimed
    · rwa [State.move_other s place same] at claimed
  exact ⟨fun j k first second => holds.unique j k (back j first) (back k second),
    fun free j claimed => holds.busy free j (back j claimed)⟩

variable {final : ω → Bool}

/-- Every step keeps the winner the only one. -/
theorem exclusive_step (s : State ι ω) (label : Label ι ω) (s' : State ι ω) (holds : Exclusive s)
    (taken : next final s label = some s') : Exclusive s' := by
  cases label with
  | enter i =>
    simp only [next, Option.ite_none_right_eq_some, Option.some.injEq] at taken
    obtain ⟨-, rfl⟩ := taken
    exact holds.move (by simp [Party.Claimed])
  | claim i =>
    simp only [next, Option.ite_none_right_eq_some] at taken
    obtain ⟨-, taken⟩ := taken
    cases cell : s.cell with
    | free =>
      simp only [cell, Option.some.injEq] at taken
      subst taken
      refine ⟨?_, by simp⟩
      have others : ∀ j, ((s.move i .won).party j).Claimed → j = i := by
        intro j claimed
        by_cases same : j = i
        · exact same
        · rw [show _ = _ from State.move_other s .won same] at claimed
          exact absurd claimed (holds.busy cell j)
      intro j k first second
      rw [others j first, others k second]
    | taken | finished | withdrawn =>
      simp only [cell, Option.some.injEq] at taken
      subst taken
      exact holds.move (by simp [Party.Claimed])
  | finish i outcome =>
    simp only [next, Option.ite_none_right_eq_some, Option.some.injEq] at taken
    obtain ⟨⟨won, -⟩, rfl⟩ := taken
    have moved : Exclusive (s.move i .done) := holds.move (by simp [won, Party.Claimed])
    exact ⟨moved.unique, by simp⟩
  | look i =>
    simp only [next] at taken
    split at taken
    · simp only [Option.ite_none_right_eq_some, Option.some.injEq] at taken
      obtain ⟨-, rfl⟩ := taken
      exact holds.move (by simp [Party.Claimed])
    · cases taken
  | withdraw i =>
    simp only [next, Option.ite_none_right_eq_some, Option.some.injEq] at taken
    obtain ⟨-, rfl⟩ := taken
    have moved : Exclusive (s.move i .withdrew) := holds.move (by simp [Party.Claimed])
    exact ⟨moved.unique, by simp⟩

/-- In every reachable state, at most one party holds the cell or has held it. -/
theorem exclusive_of_reachable {allowed : Machine.Guard (State ι ω) (Label ι ω)} {s : State ι ω}
    (reached : (machine ι final).Reachable allowed s) : Exclusive s := by
  apply reached.invariant
  · rintro s ⟨-, outside⟩
    exact ⟨by simp [outside, Party.Claimed], by simp [outside, Party.Claimed]⟩
  · intro s label s' holds _ taken
    exact exclusive_step s label s' holds taken

/-- What the cell says once it has left its start: a beaten party has found it decided, a
withdrawn cell was withdrawn by some party, and an outcome is one a finish may have. -/
structure Settled (final : ω → Bool) (s : State ι ω) : Prop where
  beaten : ∀ i, s.party i = .beaten → s.cell ≠ .free
  withdrawn : s.cell = .withdrawn → ∃ i, s.party i = .withdrew
  legal : ∀ outcome, s.cell = .finished outcome → final outcome = true

/-- A party that moves keeps the cell settled when it did not withdraw the cell and does not
find it free. -/
theorem Settled.move {s : State ι ω} (holds : Settled final s) {i : ι} {place : Party}
    (stays : s.party i ≠ .withdrew) (decided : place = .beaten → s.cell ≠ .free) :
    Settled final (s.move i place) := by
  refine ⟨?_, ?_, holds.legal⟩
  · intro j beaten
    by_cases same : j = i
    · subst same
      exact decided ((State.move_same s j place).symm.trans beaten)
    · exact holds.beaten j ((State.move_other s place same).symm.trans beaten)
  · intro cell
    obtain ⟨j, withdrew⟩ := holds.withdrawn cell
    have apart : j ≠ i := by
      rintro rfl
      exact stays withdrew
    exact ⟨j, (State.move_other s place apart).trans withdrew⟩

/-- Every step keeps the cell settled. -/
theorem settled_step (s : State ι ω) (label : Label ι ω) (s' : State ι ω) (holds : Settled final s)
    (taken : next final s label = some s') : Settled final s' := by
  cases label with
  | enter i =>
    simp only [next, Option.ite_none_right_eq_some, Option.some.injEq] at taken
    obtain ⟨outside, rfl⟩ := taken
    exact holds.move (by simp [outside]) (by simp)
  | claim i =>
    by_cases cell : s.cell = .free
    · simp only [next, Option.ite_none_right_eq_some, cell, Option.some.injEq] at taken
      obtain ⟨-, rfl⟩ := taken
      exact ⟨by simp, by simp, by simp⟩
    · by_cases waiting : s.party i = .waiting
      · rw [next_claim_busy waiting cell] at taken
        obtain rfl := Option.some.inj taken
        exact holds.move (by simp [waiting]) fun _ => cell
      · simp [next, waiting] at taken
  | finish i outcome =>
    simp only [next, Option.ite_none_right_eq_some, Option.some.injEq] at taken
    obtain ⟨⟨-, legal⟩, rfl⟩ := taken
    exact ⟨by simp, by simp, by simpa using legal⟩
  | look i =>
    simp only [next] at taken
    split at taken
    · simp only [Option.ite_none_right_eq_some, Option.some.injEq] at taken
      obtain ⟨outside, rfl⟩ := taken
      exact holds.move (by simp [outside]) (by simp)
    · cases taken
  | withdraw i =>
    simp only [next, Option.ite_none_right_eq_some, Option.some.injEq] at taken
    obtain ⟨-, rfl⟩ := taken
    exact ⟨by simp, fun _ => ⟨i, by simp [State.move]⟩, by simp⟩

/-- In every reachable state, the cell is settled. -/
theorem settled_of_reachable {allowed : Machine.Guard (State ι ω) (Label ι ω)} {s : State ι ω}
    (reached : (machine ι final).Reachable allowed s) : Settled final s := by
  apply reached.invariant
  · rintro s ⟨free, outside⟩
    exact ⟨by simp [outside], by simp [free], by simp [free]⟩
  · intro s label s' holds _ taken
    exact settled_step s label s' holds taken

/-- No withdrawal is written once a claim has been won. -/
def WithdrawsInTime : Machine.Guard (State ι ω) (Label ι ω)
  | s, .withdraw _ => s.cell = .free ∨ s.cell = .withdrawn
  | _, _ => True

/-- One move of the cell in its one-way order. -/
inductive Cell.Move (final : ω → Bool) : Cell ω → Cell ω → Prop where
  | stay (cell : Cell ω) : Move final cell cell
  | claim : Move final .free .taken
  | finish {outcome : ω} (legal : final outcome = true) : Move final .taken (.finished outcome)
  | withdraw : Move final .free .withdrawn

/-- What the cell says about the parties when withdrawals come in time. -/
structure Ordered (s : State ι ω) : Prop where
  won : ∀ i, s.party i = .won → s.cell = .taken
  withdrew : ∀ i, s.party i = .withdrew → s.cell = .withdrawn
  withdrawn : s.cell = .withdrawn → ∀ i, ¬(s.party i).Claimed

/-- A party that moves to a harmless place keeps the order. -/
theorem Ordered.move {s : State ι ω} (holds : Ordered s) {i : ι} {place : Party}
    (loser : ¬place.Claimed) (stays : place ≠ .withdrew) : Ordered (s.move i place) := by
  constructor
  · intro j won
    by_cases same : j = i
    · subst same
      rw [State.move_same] at won
      subst won
      exact absurd trivial loser
    · rw [State.move_other s place same] at won
      exact holds.won j won
  · intro j withdrew
    by_cases same : j = i
    · subst same
      rw [State.move_same] at withdrew
      exact absurd withdrew stays
    · rw [State.move_other s place same] at withdrew
      exact holds.withdrew j withdrew
  · intro cell j claimed
    by_cases same : j = i
    · subst same
      rw [State.move_same] at claimed
      exact loser claimed
    · rw [State.move_other s place same] at claimed
      exact holds.withdrawn cell j claimed

/-- A step that meets the guard moves the cell one way and keeps the order. -/
theorem ordered_step (s : State ι ω) (label : Label ι ω) (s' : State ι ω)
    (holds : Exclusive s ∧ Ordered s) (meets : WithdrawsInTime s label)
    (taken : next final s label = some s') :
    (Exclusive s' ∧ Ordered s') ∧ Cell.Move final s.cell s'.cell := by
  obtain ⟨exclusive, ordered⟩ := holds
  have exclusive' := exclusive_step s label s' exclusive taken
  suffices Ordered s' ∧ Cell.Move final s.cell s'.cell from ⟨⟨exclusive', this.1⟩, this.2⟩
  cases label with
  | enter i =>
    simp only [next, Option.ite_none_right_eq_some, Option.some.injEq] at taken
    obtain ⟨-, rfl⟩ := taken
    exact ⟨ordered.move (by simp [Party.Claimed]) (by simp), .stay _⟩
  | claim i =>
    simp only [next, Option.ite_none_right_eq_some] at taken
    obtain ⟨-, taken⟩ := taken
    cases cell : s.cell with
    | free =>
      simp only [cell, Option.some.injEq] at taken
      subst taken
      refine ⟨⟨fun _ _ => rfl, ?_, by simp⟩, .claim⟩
      intro j withdrew
      by_cases same : j = i
      · subst same
        simp at withdrew
      · have before : s.party j = .withdrew := by simpa [State.move, same] using withdrew
        simp [ordered.withdrew j before] at cell
    | taken | finished | withdrawn =>
      simp only [cell, Option.some.injEq] at taken
      subst taken
      exact ⟨ordered.move (by simp [Party.Claimed]) (by simp), by simpa [cell] using .stay _⟩
  | finish i outcome =>
    simp only [next, Option.ite_none_right_eq_some, Option.some.injEq] at taken
    obtain ⟨⟨won, legal⟩, rfl⟩ := taken
    have cell := ordered.won i won
    refine ⟨⟨?_, ?_, by simp⟩, cell ▸ .finish legal⟩
    · intro j again
      by_cases same : j = i
      · subst same
        simp at again
      · have before : s.party j = .won := by simpa [State.move, same] using again
        exact absurd (exclusive.unique j i (by simp [before, Party.Claimed])
          (by simp [won, Party.Claimed])) same
    · intro j withdrew
      by_cases same : j = i
      · subst same
        simp at withdrew
      · have before : s.party j = .withdrew := by simpa [State.move, same] using withdrew
        simp [ordered.withdrew j before] at cell
  | look i =>
    simp only [next] at taken
    split at taken
    · simp only [Option.ite_none_right_eq_some, Option.some.injEq] at taken
      obtain ⟨-, rfl⟩ := taken
      exact ⟨ordered.move (by simp [Party.Claimed]) (by simp), .stay _⟩
    · cases taken
  | withdraw i =>
    simp only [next, Option.ite_none_right_eq_some, Option.some.injEq] at taken
    obtain ⟨looked, rfl⟩ := taken
    have unclaimed : ∀ j, ¬(s.party j).Claimed := by
      rcases meets with free | withdrawn
      · exact exclusive.busy free
      · exact ordered.withdrawn withdrawn
    have later : ∀ j, ¬((s.move i .withdrew).party j).Claimed := by
      intro j claimed
      by_cases same : j = i
      · subst same
        simp [Party.Claimed] at claimed
      · rw [State.move_other s _ same] at claimed
        exact unclaimed j claimed
    refine ⟨⟨fun j won => ?_, fun _ _ => rfl, fun _ => later⟩, ?_⟩
    · exact absurd (show ((s.move i .withdrew).party j).Claimed from by
        simp only [State.move] at won ⊢
        simp [won, Party.Claimed]) (later j)
    · rcases meets with free | withdrawn
      · exact free ▸ .withdraw
      · exact withdrawn ▸ .stay _

/-- When withdrawals come in time, every reachable state is ordered. -/
theorem ordered_of_reachable {s : State ι ω}
    (reached : (machine ι final).Reachable WithdrawsInTime s) : Exclusive s ∧ Ordered s := by
  apply reached.invariant
  · rintro s ⟨free, outside⟩
    exact ⟨⟨by simp [outside, Party.Claimed], by simp [outside, Party.Claimed]⟩,
      ⟨by simp [outside], by simp [outside], by simp [free]⟩⟩
  · intro s label s' holds meets taken
    exact (ordered_step s label s' holds meets taken).1

/-- When withdrawals come in time and one was written, nobody claims the cell, ever. -/
theorem unclaimed_of_withdrew {s : State ι ω}
    (reached : (machine ι final).Reachable WithdrawsInTime s) {i : ι}
    (withdrew : s.party i = .withdrew) (j : ι) : ¬(s.party j).Claimed := by
  obtain ⟨-, ordered⟩ := ordered_of_reachable reached
  exact ordered.withdrawn (ordered.withdrew i withdrew) j

end MarketingOS.ClaimOnce
