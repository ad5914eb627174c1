import Mathlib.Data.List.Sort

/-!
# Stable sorting by a key

Which of two elements comes first in a list sorted by a key: the one with the smaller key, and of
two with the same key the one that came first before.
-/
namespace MarketingOS.StableSort

variable {α κ : Type} [LinearOrder κ]

/-- `sorted(l, key=key)` -/
def sortBy (key : α → κ) (l : List α) : List α := l.insertionSort fun a b => key a ≤ key b

/-- Of two different elements of a list one comes first. -/
theorem pair_sublist_or {l : List α} {a b : α} (apart : a ≠ b) (left : a ∈ l) (right : b ∈ l) :
    [a, b].Sublist l ∨ [b, a].Sublist l := by
  obtain ⟨front, back, rfl⟩ := List.append_of_mem left
  rcases List.mem_append.mp right with ahead | behind
  · right
    exact (List.singleton_sublist.mpr ahead).append (List.singleton_sublist.mpr List.mem_cons_self)
  · left
    have later : b ∈ back := (List.mem_cons.mp behind).resolve_left apart.symm
    exact (List.Sublist.cons_cons a (List.singleton_sublist.mpr later)).trans
      (List.sublist_append_right front _)

/-- Where no element occurs twice, one of two elements comes first and the other does not. -/
theorem pair_sublist_antisymm {l : List α} {a b : α} (nodup : l.Nodup) (one : [a, b].Sublist l)
    (other : [b, a].Sublist l) : False := by
  induction l with
  | nil => cases one
  | cons first rest ih =>
    have ⟨fresh, distinct⟩ := List.nodup_cons.mp nodup
    cases one with
    | cons _ one =>
      cases other with
      | cons _ other => exact ih distinct one other
      | cons_cons _ other => exact fresh (one.subset (by simp))
    | cons_cons _ one =>
      cases other with
      | cons _ other => exact fresh (other.subset (by simp))
      | cons_cons _ other => exact fresh (List.singleton_sublist.mp one)

/-- A smaller number comes first in a range. -/
theorem pair_sublist_range {n i j : Nat} (left : i < n) (right : j < n) :
    [i, j].Sublist (List.range n) ↔ i < j := by
  have ordered : ∀ {a b : Nat}, [a, b].Sublist (List.range n) → a < b := fun inside =>
    List.pairwise_pair.mp (List.pairwise_lt_range.sublist inside)
  constructor
  · exact ordered
  · intro smaller
    have either := pair_sublist_or (Nat.ne_of_lt smaller) (List.mem_range.mpr left)
      (List.mem_range.mpr right)
    rcases either with inside | reversed
    · exact inside
    · have wrong := ordered reversed
      omega

variable {key : α → κ} {l : List α}

/-- Two keys are in order one way or the other. -/
instance totalKeys : Std.Total fun a b : α => key a ≤ key b := ⟨fun a b => le_total (key a) (key b)⟩

/-- The order of keys is transitive. -/
instance transKeys : IsTrans α fun a b => key a ≤ key b := ⟨fun _ _ _ ab bc => ab.trans bc⟩

/-- Sorting keeps the elements. -/
@[simp] theorem mem_sortBy {a : α} : a ∈ sortBy key l ↔ a ∈ l := List.mem_insertionSort _

/-- Sorting keeps the elements as often as they occur. -/
theorem sortBy_perm : (sortBy key l).Perm l := List.perm_insertionSort _ l

/-- Sorting what a function makes of a list. -/
theorem sortBy_map {β : Type} (f : β → α) (l : List β) :
    sortBy key (l.map f) = (sortBy (fun b => key (f b)) l).map f :=
  (List.map_insertionSort _ _ f l fun _ _ _ _ => Iff.rfl).symm

/-- A sorted list is in the order of its keys. -/
theorem pairwise_sortBy : (sortBy key l).Pairwise fun a b => key a ≤ key b :=
  List.pairwise_insertionSort _ l

/-- Two elements in the order of their keys stay in their order. -/
theorem pair_sublist_of_le {a b : α} (le : key a ≤ key b) (inside : [a, b].Sublist l) :
    [a, b].Sublist (sortBy key l) :=
  List.pair_sublist_insertionSort le inside

/-- The order of two elements after sorting. -/
theorem pair_sublist_sortBy {a b : α} (nodup : l.Nodup) (left : a ∈ l) (right : b ∈ l) :
    [a, b].Sublist (sortBy key l) ↔
      key a < key b ∨ (key a = key b ∧ [a, b].Sublist l) := by
  have nodup' : (sortBy key l).Nodup := sortBy_perm.nodup_iff.mpr nodup
  have ordered : ∀ {x y : α}, [x, y].Sublist (sortBy key l) → key x ≤ key y := by
    intro x y inside
    have sorted : [x, y].Pairwise fun a b => key a ≤ key b := pairwise_sortBy.sublist inside
    exact List.rel_of_pairwise_cons sorted List.mem_cons_self
  constructor
  · intro inside
    rcases (ordered inside).lt_or_eq with less | same
    · exact .inl less
    · have apart : a ≠ b := by
        rintro rfl
        exact absurd (nodup'.sublist inside) (by simp)
      refine .inr ⟨same, (pair_sublist_or apart left right).resolve_right fun reversed => ?_⟩
      exact pair_sublist_antisymm nodup' inside (pair_sublist_of_le same.ge reversed)
  · rintro (less | ⟨same, inside⟩)
    · have apart : a ≠ b := by
        rintro rfl
        exact lt_irrefl _ less
      refine (pair_sublist_or apart (mem_sortBy.mpr left) (mem_sortBy.mpr right)).resolve_right
        fun reversed => ?_
      exact absurd (ordered reversed) (not_le.mpr less)
    · exact pair_sublist_of_le same.le inside

/-- An element is inserted behind those of smaller key. -/
theorem orderedInsert_append {a : α} {front back : List α} (less : ∀ b ∈ front, key b < key a) :
    (front ++ back).orderedInsert (fun a b => key a ≤ key b) a =
      front ++ back.orderedInsert (fun a b => key a ≤ key b) a := by
  induction front with
  | nil => rfl
  | cons b front ih =>
    have behind : ¬ key a ≤ key b := not_le.mpr (less b List.mem_cons_self)
    rw [List.cons_append, List.orderedInsert_cons, if_neg behind,
      ih fun c inside => less c (List.mem_cons_of_mem _ inside), List.cons_append]

/-- An element is inserted in front of those of no smaller key. -/
theorem orderedInsert_front {a : α} {back : List α} (most : ∀ b ∈ back, key a ≤ key b) :
    back.orderedInsert (fun a b => key a ≤ key b) a = a :: back := by
  cases back with
  | nil => rfl
  | cons b back => rw [List.orderedInsert_cons, if_pos (most b List.mem_cons_self)]

/-- Sorting by a key with two values. -/
theorem sortBy_two {low high : κ} (p : α → Bool) (lows : ∀ a, p a = true → key a = low)
    (highs : ∀ a, p a = false → key a = high) (apart : low < high) (l : List α) :
    sortBy key l = l.filter p ++ l.filter fun a => !p a := by
  induction l with
  | nil => rfl
  | cons a l ih =>
    rw [sortBy, List.insertionSort_cons, ← sortBy, ih]
    cases first : p a with
    | true =>
      rw [List.filter_cons_of_pos first, List.filter_cons_of_neg (by simp [first])]
      refine orderedInsert_front fun b _ => ?_
      rw [lows a first]
      cases second : p b with
      | true => exact (lows b second).ge
      | false => exact apart.le.trans (highs b second).ge
    | false =>
      rw [List.filter_cons_of_neg (by simp [first]), List.filter_cons_of_pos (by simp [first])]
      have less : ∀ b ∈ l.filter p, key b < key a := by
        intro b inside
        rw [lows b (List.mem_filter.mp inside).2, highs a first]
        exact apart
      rw [orderedInsert_append less]
      refine congrArg (l.filter p ++ ·) (orderedInsert_front fun b inside => ?_)
      have second : p b = false := by simpa using (List.mem_filter.mp inside).2
      rw [highs a first, highs b second]

/-- Filtering what an element is inserted into. -/
theorem filter_orderedInsert {a : α} {kept : α → Bool}
    (sorted : l.Pairwise fun a b => key a ≤ key b) :
    (l.orderedInsert (fun a b => key a ≤ key b) a).filter kept =
      if kept a then (l.filter kept).orderedInsert (fun a b => key a ≤ key b) a
      else l.filter kept := by
  induction l with
  | nil => simp [List.filter_cons]
  | cons b rest ih =>
    have ⟨least, sorted'⟩ := List.pairwise_cons.mp sorted
    rw [List.orderedInsert_cons]
    by_cases first : key a ≤ key b
    · rw [if_pos first]
      have most : ∀ c ∈ (b :: rest).filter kept, key a ≤ key c := by
        intro c inside
        rcases List.mem_cons.mp (List.mem_filter.mp inside).1 with rfl | later
        · exact first
        · exact first.trans (least c later)
      rw [orderedInsert_front most, List.filter_cons]
    · rw [if_neg first, List.filter_cons, ih sorted', List.filter_cons]
      cases kept b <;> cases kept a <;> simp [first]

/-- Sorting what is kept of a list. -/
theorem sortBy_filter (kept : α → Bool) (l : List α) :
    sortBy key (l.filter kept) = (sortBy key l).filter kept := by
  induction l with
  | nil => rfl
  | cons a l ih =>
    have inserted : sortBy key (a :: l) =
        (sortBy key l).orderedInsert (fun a b => key a ≤ key b) a := rfl
    rw [inserted, filter_orderedInsert pairwise_sortBy, ← ih, List.filter_cons]
    split
    · rfl
    · rfl

end MarketingOS.StableSort
