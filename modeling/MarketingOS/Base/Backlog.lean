import Mathlib.Data.List.Nodup

/-!
# A backlog worked off in batches

A round looks at the front of a queue, serves what is fit to be served and leaves the rest where it
is. What is never fit stays in front for good, so a round comes to an entry exactly when fewer unfit
entries than a batch has places stand before it.
-/
namespace MarketingOS.Backlog

variable {ι : Type} (fit : ι → Bool)

/-- What a round with some places serves. -/
def served (places : Nat) (queue : List ι) : List ι := (queue.take places).filter fit

/-- What a round with some places leaves. -/
def left (places : Nat) (queue : List ι) : List ι :=
  (queue.take places).filter (fun entry => !fit entry) ++ queue.drop places

/-- Every fit entry has fewer unfit ones before it than there are places. -/
def Clear (places : Nat) (queue : List ι) : Prop :=
  ∀ before entry after, queue = before ++ entry :: after → fit entry = true →
    before.countP (fun other => !fit other) < places

/-- What is left after some rounds. -/
def leftAfter (places : Nat) (queue : List ι) : Nat → List ι
  | 0 => queue
  | rounds + 1 => leftAfter places (left fit places queue) rounds

/-- What is served in some rounds. -/
def servedIn (places : Nat) (queue : List ι) : Nat → List ι
  | 0 => []
  | rounds + 1 => served fit places queue ++ servedIn places (left fit places queue) rounds

variable {fit} {places : Nat} {queue : List ι}

/-! ## One round -/

/-- A round without places leaves everything. -/
@[simp] theorem left_zero : left fit 0 queue = queue := rfl

/-- A round with a place serves a fit entry in front. -/
theorem left_cons_fit {entry : ι} (isFit : fit entry = true) :
    left fit (places + 1) (entry :: queue) = left fit places queue := by
  simp [left, isFit]

/-- A round leaves an unfit entry in front. -/
theorem left_cons_unfit {entry : ι} (unfit : fit entry = false) :
    left fit (places + 1) (entry :: queue) = entry :: left fit places queue := by
  simp [left, unfit]

/-- A round serves or leaves every entry. -/
theorem served_append_left : (served fit places queue ++ left fit places queue).Perm queue := by
  have parted : ((queue.take places).filter fit ++
      (queue.take places).filter fun entry => !fit entry).Perm (queue.take places) :=
    List.filter_append_perm fit (queue.take places)
  have whole := parted.append_right (queue.drop places)
  rw [List.take_append_drop, List.append_assoc] at whole
  exact whole

/-- What is served is fit. -/
theorem fit_of_served {entry : ι} (inside : entry ∈ served fit places queue) :
    fit entry = true :=
  (List.mem_filter.mp inside).2

/-- A queue that is clear with an entry in front. -/
theorem clear_cons {entry : ι} : Clear fit places (entry :: queue) ↔
    if fit entry then 0 < places ∧ Clear fit places queue else Clear fit (places - 1) queue := by
  constructor
  · intro clear
    split
    · next isFit =>
      refine ⟨clear [] entry queue rfl isFit, fun before other after parts otherFit => ?_⟩
      have counted := clear (entry :: before) other after (by rw [parts]; rfl) otherFit
      rwa [List.countP_cons_of_neg (by simp [isFit])] at counted
    · next unfit =>
      intro before other after parts otherFit
      have counted := clear (entry :: before) other after (by rw [parts]; rfl) otherFit
      rw [List.countP_cons_of_pos (by simpa using unfit)] at counted
      omega
  · intro clear before other after parts otherFit
    cases before with
    | nil =>
      obtain ⟨rfl, rfl⟩ := List.cons.inj parts
      rw [if_pos otherFit] at clear
      exact clear.1
    | cons first before =>
      obtain ⟨rfl, behind⟩ := List.cons.inj parts
      split at clear
      · next isFit =>
        rw [List.countP_cons_of_neg (by simp [isFit])]
        exact clear.2 before other after behind otherFit
      · next unfit =>
        rw [List.countP_cons_of_pos (by simpa using unfit)]
        have counted := clear before other after behind otherFit
        omega

/-- A round of no more places than are asked for leaves a clear queue clear, and a blocked one
blocked. -/
theorem clear_left {batch : Nat} (small : batch ≤ places) :
    Clear fit places (left fit batch queue) ↔ Clear fit places queue := by
  induction queue generalizing batch places with
  | nil => rw [left, List.take_nil, List.drop_nil]; rfl
  | cons entry rest ih =>
    cases batch with
    | zero => rw [left_zero]
    | succ batch =>
      cases isFit : fit entry with
      | true =>
        rw [left_cons_fit isFit, clear_cons, if_pos isFit, ih (by omega)]
        exact ⟨fun clear => ⟨by omega, clear⟩, And.right⟩
      | false =>
        rw [left_cons_unfit isFit, clear_cons, clear_cons, if_neg (by simp [isFit]),
          if_neg (by simp [isFit]), ih (by omega)]

/-- A queue without fit entries is clear. -/
theorem clear_of_none (none : ∀ entry ∈ queue, fit entry = false) : Clear fit places queue := by
  intro before entry after parts isFit
  rw [none entry (parts ▸ List.mem_append_right _ List.mem_cons_self)] at isFit
  cases isFit

/-- A round over a clear queue with a fit entry serves one. -/
theorem served_ne_nil {entry : ι} (clear : Clear fit places queue) (inside : entry ∈ queue)
    (isFit : fit entry = true) : served fit places queue ≠ [] := by
  induction queue generalizing places with
  | nil => cases inside
  | cons first rest ih =>
    rw [clear_cons] at clear
    cases front : fit first with
    | true =>
      rw [if_pos front] at clear
      obtain ⟨batch, rfl⟩ := Nat.exists_eq_add_one.mpr clear.1
      simp [served, front]
    | false =>
      rw [if_neg (by simp [front])] at clear
      have later : entry ∈ rest := by
        refine (List.mem_cons.mp inside).resolve_left fun same => ?_
        rw [same, front] at isFit
        cases isFit
      have some := ih clear later
      cases places with
      | zero => exact absurd rfl some
      | succ batch =>
        rw [served, List.take_succ_cons, List.filter_cons_of_neg (by simp [front])]
        exact some

/-! ## Rounds -/

/-- Rounds serve or leave every entry. -/
theorem servedIn_append_leftAfter (rounds : Nat) :
    (servedIn fit places queue rounds ++ leftAfter fit places queue rounds).Perm queue := by
  induction rounds generalizing queue with
  | zero => exact .refl _
  | succ rounds ih =>
    rw [servedIn, leftAfter, List.append_assoc]
    exact (ih.append_left _).trans served_append_left

/-- Rounds serve fit entries only. -/
theorem fit_of_servedIn {rounds : Nat} {entry : ι}
    (inside : entry ∈ servedIn fit places queue rounds) : fit entry = true := by
  induction rounds generalizing queue with
  | zero => cases inside
  | succ rounds ih =>
    rcases List.mem_append.mp inside with now | later
    · exact fit_of_served now
    · exact ih later

/-- Rounds leave a clear queue clear, and a blocked one blocked. -/
theorem clear_leftAfter (rounds : Nat) :
    Clear fit places (leftAfter fit places queue rounds) ↔ Clear fit places queue := by
  induction rounds generalizing queue with
  | zero => rfl
  | succ rounds ih =>
    rw [leftAfter, ih]
    exact clear_left (Nat.le_refl places)

/-- As many rounds as there are entries leave no fit entry of a clear queue. -/
theorem fit_of_leftAfter {rounds : Nat} (clear : Clear fit places queue)
    (enough : queue.countP fit ≤ rounds) {entry : ι}
    (inside : entry ∈ leftAfter fit places queue rounds) : fit entry = false := by
  induction rounds generalizing queue with
  | zero =>
    have none := List.countP_eq_zero.mp (Nat.le_zero.mp enough) entry inside
    simpa using none
  | succ rounds ih =>
    refine ih ((clear_left (Nat.le_refl places)).mpr clear) ?_ inside
    by_cases some : ∃ entry ∈ queue, fit entry = true
    · obtain ⟨fitting, listed, isFit⟩ := some
      have parted : (served fit places queue ++ left fit places queue).Perm queue :=
        served_append_left
      have kept := parted.countP_eq fit
      rw [List.countP_append] at kept
      obtain ⟨one, more, serves⟩ :=
        List.exists_cons_of_ne_nil (served_ne_nil clear listed isFit)
      have first : fit one = true := fit_of_served (serves ▸ List.mem_cons_self)
      rw [serves, List.countP_cons_of_pos first] at kept
      omega
    · have none : ∀ entry ∈ left fit places queue, ¬ fit entry = true := by
        intro other listed isFit
        exact some ⟨other, served_append_left.subset (List.mem_append_right _ listed), isFit⟩
      rw [List.countP_eq_zero.mpr none]
      exact Nat.zero_le _

/-- Every fit entry of a queue is served in the end exactly when the queue is clear. -/
theorem served_iff_clear (rounds : Nat) (enough : queue.countP fit ≤ rounds)
    (distinct : queue.Nodup) :
    (∀ entry ∈ queue, fit entry = true → entry ∈ servedIn fit places queue rounds) ↔
      Clear fit places queue := by
  have parted : (servedIn fit places queue rounds ++
      leftAfter fit places queue rounds).Perm queue := servedIn_append_leftAfter rounds
  constructor
  · intro all
    rw [← clear_leftAfter rounds]
    refine clear_of_none fun entry inside => ?_
    cases isFit : fit entry with
    | false => rfl
    | true =>
      have listed := parted.subset (List.mem_append_right _ inside)
      have disjoint := List.disjoint_of_nodup_append (parted.nodup_iff.mpr distinct)
      exact absurd inside (disjoint (all entry listed isFit))
  · intro clear entry inside isFit
    rcases List.mem_append.mp (parted.symm.subset inside) with now | still
    · exact now
    · rw [fit_of_leftAfter clear enough still] at isFit
      cases isFit

end MarketingOS.Backlog
