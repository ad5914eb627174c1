import Mathlib.Data.List.Nodup

/-!
# Tables of keyed rows

A table is a list of rows, and a key function names each row. The statements here say what a
lookup returns after each kind of write, so that a proof about a service reads its writes back
without unfolding them.
-/
namespace MarketingOS.Table

variable {ρ κ : Type} [DecidableEq κ] (key : ρ → κ)

/-- The first row under a key. -/
def get (rows : List ρ) (k : κ) : Option ρ := rows.find? fun row => decide (key row = k)

/-- Whether some row stands under a key. -/
def has (rows : List ρ) (k : κ) : Bool := rows.any fun row => decide (key row = k)

/-- Rewrite the rows under a key and keep every other row. -/
def modify (k : κ) (change : ρ → ρ) (rows : List ρ) : List ρ :=
  rows.map fun row => if key row = k then change row else row

/-- Drop the rows under a key. -/
def remove (k : κ) (rows : List ρ) : List ρ := rows.filter fun row => decide (key row ≠ k)

/-- Make a row, or none, the row under a key. -/
def put (k : κ) (row : Option ρ) (rows : List ρ) : List ρ :=
  match row with
  | none => remove key k rows
  | some row => if has key rows k then modify key k (fun _ => row) rows else rows ++ [row]

variable {key}

/-- The row a lookup returns is in the table. -/
theorem get_mem {rows : List ρ} {k : κ} {row : ρ} (found : get key rows k = some row) :
    row ∈ rows := List.mem_of_find?_eq_some found

/-- The row a lookup returns stands under the key looked up. -/
theorem get_key {rows : List ρ} {k : κ} {row : ρ} (found : get key rows k = some row) :
    key row = k := by
  simpa using List.find?_some found

/-- A table with a row under a key is one whose lookup finds a row. -/
theorem has_iff_get {rows : List ρ} {k : κ} :
    has key rows k = true ↔ ∃ row, get key rows k = some row := by
  simp only [has, get, List.any_eq_true, ← Option.isSome_iff_exists, List.find?_isSome]

/-- A rewrite that keeps keys is seen by a lookup under the same key. -/
theorem get_modify_same {rows : List ρ} {k : κ} {change : ρ → ρ}
    (keeps : ∀ row, key row = k → key (change row) = k) :
    get key (modify key k change rows) k = (get key rows k).map change := by
  induction rows with
  | nil => rfl
  | cons row rows ih =>
    simp only [get, modify, List.map_cons] at ih ⊢
    by_cases same : key row = k
    · simp [same, keeps row same]
    · simpa [List.find?_cons, same] using ih

/-- A rewrite that keeps keys is not seen by a lookup under another key. -/
theorem get_modify_other {rows : List ρ} {k other : κ} {change : ρ → ρ}
    (keeps : ∀ row, key row = k → key (change row) = k) (different : other ≠ k) :
    get key (modify key k change rows) other = get key rows other := by
  induction rows with
  | nil => rfl
  | cons row rows ih =>
    simp only [get, modify, List.map_cons] at ih ⊢
    by_cases same : key row = k
    · have apart : ¬k = other := fun h => different h.symm
      simpa [List.find?_cons, same, keeps row same, apart] using ih
    · by_cases hit : key row = other
      · simp [hit, different]
      · simpa [List.find?_cons, same, hit] using ih

/-- A lookup under one key after a rewrite under another that keeps the first returns the row
found before, rewritten when it stands under the rewritten key. -/
theorem get_modify_of_keeps {μ : Type} [DecidableEq μ] {name : ρ → μ} {rows : List ρ} {k : κ}
    {change : ρ → ρ} (keeps : ∀ row, name (change row) = name row) (sought : μ) :
    get name (modify key k change rows) sought =
      (get name rows sought).map fun row => if key row = k then change row else row := by
  simp only [get, modify, List.find?_map]
  congr 2
  funext row
  by_cases same : key row = k <;> simp [same, keeps]

/-- A row of a rewritten table is a kept row or a rewritten one. -/
theorem mem_modify {rows : List ρ} {k : κ} {change : ρ → ρ} {row : ρ} :
    row ∈ modify key k change rows ↔
      (row ∈ rows ∧ key row ≠ k) ∨ ∃ old ∈ rows, key old = k ∧ row = change old := by
  simp only [modify, List.mem_map]
  constructor
  · rintro ⟨old, inside, rfl⟩
    by_cases same : key old = k
    · exact .inr ⟨old, inside, same, by simp [same]⟩
    · exact .inl ⟨by simpa [same] using inside, by simp [same]⟩
  · rintro (⟨inside, apart⟩ | ⟨old, inside, same, rfl⟩)
    · exact ⟨row, inside, by simp [apart]⟩
    · exact ⟨old, inside, by simp [same]⟩

/-- A rewrite changes nothing a column-wise reading does not change. -/
theorem map_modify {β : Type} {rows : List ρ} {k : κ} (change : ρ → ρ) (column : ρ → β)
    (keeps : ∀ row, key row = k → column (change row) = column row) :
    (modify key k change rows).map column = rows.map column := by
  simp only [modify, List.map_map]
  apply List.map_congr_left
  intro row _
  by_cases same : key row = k <;> simp [same, keeps row]

/-- When no key occurs twice, a row is the one its key finds. -/
theorem get_of_mem {rows : List ρ} {row : ρ} (distinct : (rows.map key).Nodup)
    (inside : row ∈ rows) : get key rows (key row) = some row := by
  have present : has key rows (key row) = true := by
    simp only [has, List.any_eq_true]
    exact ⟨row, inside, by simp⟩
  obtain ⟨found, lookup⟩ := has_iff_get.mp present
  rw [lookup, List.inj_on_of_nodup_map distinct (get_mem lookup) inside (get_key lookup)]

/-- No row is found under a key whose rows were dropped. -/
@[simp] theorem get_remove_same (rows : List ρ) (k : κ) : get key (remove key k rows) k = none := by
  simp [remove, get, List.find?_eq_none]

/-- Dropping the rows under one key is not seen under another. -/
theorem get_remove_other (rows : List ρ) {k other : κ} (apart : other ≠ k) :
    get key (remove key k rows) other = get key rows other := by
  simp only [remove, get, List.find?_filter]
  congr 1
  funext row
  by_cases hit : key row = other
  · simp [hit, apart]
  · simp [hit]

/-- A row that was put under its own key is found there. -/
theorem get_put_same {rows : List ρ} {k : κ} {row : Option ρ}
    (keyed : ∀ new, row = some new → key new = k) : get key (put key k row rows) k = row := by
  cases row with
  | none => exact get_remove_same rows k
  | some new =>
    have own := keyed new rfl
    by_cases present : has key rows k = true
    · obtain ⟨old, found⟩ := has_iff_get.mp present
      simp only [put, present, ↓reduceIte, get_modify_same fun _ _ => own, found, Option.map_some]
    · have absent : get key rows k = none := by
        simpa [has, get, List.find?_eq_none] using present
      simp only [get] at absent
      simp [put, present, get, List.find?_append, absent, own]

/-- What is found after a deletion was found before it, when rows of one name have one key. -/
theorem get_of_get_remove {μ : Type} [DecidableEq μ] {name : ρ → μ}
    (fixed : ∀ row row', name row = name row' → key row = key row') {rows : List ρ} {k : κ}
    {sought : μ} {row : ρ} (found : get name (remove key k rows) sought = some row) :
    get name rows sought = some row := by
  induction rows with
  | nil => exact found
  | cons first rows ih =>
    simp only [get, remove, List.filter_cons] at ih found ⊢
    by_cases gone : key first = k
    · rw [if_neg (by simp [gone])] at found
      have kept : key row ≠ k := by
        simpa using (List.mem_filter.mp (List.mem_of_find?_eq_some found)).2
      have named : name row = sought := by simpa using List.find?_some found
      rw [List.find?_cons_of_neg, ih found]
      intro same
      exact kept ((fixed row first (named.trans (of_decide_eq_true same).symm)).trans gone)
    · rw [if_pos (by simp [gone]), List.find?_cons] at found
      rw [List.find?_cons]
      split at found
      · exact found
      · exact ih found

/-- A row put under one key is not seen under another. -/
theorem get_put_other {rows : List ρ} {k other : κ} {row : Option ρ}
    (keyed : ∀ new, row = some new → key new = k) (apart : other ≠ k) :
    get key (put key k row rows) other = get key rows other := by
  cases row with
  | none => exact get_remove_other rows apart
  | some new =>
    have own := keyed new rfl
    by_cases present : has key rows k = true
    · simp only [put, present, ↓reduceIte, get_modify_other (fun _ _ => own) apart]
    · simp [put, present, get, List.find?_append, own, Ne.symm apart]

/-- Tables that agree in some columns agree in what is read of these. -/
theorem map_of_map_eq {β γ : Type} {rows rows' : List ρ} {columns : ρ → β} (read : β → γ)
    (same : rows.map columns = rows'.map columns) :
    rows.map (fun row => read (columns row)) = rows'.map fun row => read (columns row) := by
  have composed := congrArg (List.map read) same
  rw [List.map_map, List.map_map] at composed
  exact composed

/-- Tables that agree in some columns have rows that agree in them. -/
theorem exists_of_map_eq {β : Type} {rows rows' : List ρ} {columns : ρ → β}
    (same : rows.map columns = rows'.map columns) {row : ρ} (inside : row ∈ rows) :
    ∃ other ∈ rows', columns other = columns row :=
  List.mem_map.mp (same ▸ List.mem_map_of_mem inside)

/-- A rewrite of rows outside a selection leaves the selection. -/
theorem filter_modify {rows : List ρ} {k : κ} {selected : ρ → Bool} {change : ρ → ρ}
    (outside : ∀ row ∈ rows, key row = k → selected row = false ∧ selected (change row) = false) :
    (modify key k change rows).filter selected = rows.filter selected := by
  induction rows with
  | nil => rfl
  | cons row rows ih =>
    have rest := ih fun other inside => outside other (List.mem_cons_of_mem _ inside)
    rw [modify, List.map_cons, List.filter_cons, List.filter_cons]
    rw [modify] at rest
    by_cases hit : key row = k
    · obtain ⟨before, after⟩ := outside row List.mem_cons_self hit
      rw [if_pos hit, before, after, rest]
      rfl
    · rw [if_neg hit, rest]

/-- A deletion of rows outside a selection leaves the selection. -/
theorem filter_remove {rows : List ρ} {k : κ} {selected : ρ → Bool}
    (outside : ∀ row ∈ rows, key row = k → selected row = false) :
    (remove key k rows).filter selected = rows.filter selected := by
  rw [remove, List.filter_filter]
  refine List.filter_congr fun row inside => ?_
  by_cases hit : key row = k
  · rw [outside row inside hit, Bool.false_and]
  · rw [decide_eq_true hit, Bool.and_true]

/-- A new row outside a selection leaves the selection. -/
theorem filter_concat {rows : List ρ} {selected : ρ → Bool} {row : ρ} (outside : selected row = false) :
    (rows ++ [row]).filter selected = rows.filter selected := by
  rw [List.filter_append, List.filter_cons_of_neg (by rw [outside]; exact Bool.false_ne_true),
    List.filter_nil, List.append_nil]

/-- When no key occurs twice, a lookup in a selection returns the row found when it is selected. -/
theorem get_filter {rows : List ρ} (distinct : (rows.map key).Nodup) (selected : ρ → Bool) (k : κ) :
    get key (rows.filter selected) k = (get key rows k).filter selected := by
  have distinct' : ((rows.filter selected).map key).Nodup :=
    distinct.sublist (List.filter_sublist.map key)
  ext row
  rw [Option.filter_eq_some_iff]
  constructor
  · intro found
    obtain ⟨inside, chosen⟩ := List.mem_filter.mp (get_mem found)
    obtain rfl := get_key found
    exact ⟨get_of_mem distinct inside, chosen⟩
  · rintro ⟨found, chosen⟩
    obtain rfl := get_key found
    exact get_of_mem distinct' (List.mem_filter.mpr ⟨get_mem found, chosen⟩)

/-- A rewrite that keeps a row in or out of a selection is made in the selection. -/
theorem filter_modify_of_keeps {rows : List ρ} {k : κ} {selected : ρ → Bool} {change : ρ → ρ}
    (keeps : ∀ row, selected (change row) = selected row) :
    (modify key k change rows).filter selected = modify key k change (rows.filter selected) := by
  rw [modify, modify, List.filter_map]
  congr 1
  refine List.filter_congr fun row _ => ?_
  by_cases hit : key row = k
  · simp only [Function.comp_apply, hit, ↓reduceIte, keeps]
  · simp only [Function.comp_apply, hit, ↓reduceIte]

/-- A deletion is made in a selection. -/
theorem filter_remove_comm {rows : List ρ} {k : κ} {selected : ρ → Bool} :
    (remove key k rows).filter selected = remove key k (rows.filter selected) := List.filter_comm ..

/-- A new row of a selection. -/
theorem filter_concat_selected {rows : List ρ} {selected : ρ → Bool} {row : ρ}
    (chosen : selected row = true) :
    (rows ++ [row]).filter selected = rows.filter selected ++ [row] := by
  rw [List.filter_append, List.filter_cons_of_pos chosen, List.filter_nil]

/-- A key under which no row is left out is taken in a selection as it is in the table. -/
theorem has_filter {rows : List ρ} {k : κ} {selected : ρ → Bool}
    (all : ∀ row ∈ rows, selected row = false → key row ≠ k) :
    has key (rows.filter selected) k = has key rows k := by
  rw [Bool.eq_iff_iff]
  simp only [has, List.any_eq_true, decide_eq_true_eq, List.mem_filter]
  constructor
  · rintro ⟨row, ⟨inside, -⟩, same⟩
    exact ⟨row, inside, same⟩
  · rintro ⟨row, inside, same⟩
    cases chosen : selected row with
    | true => exact ⟨row, ⟨inside, chosen⟩, same⟩
    | false => exact absurd same (all row inside chosen)

end MarketingOS.Table
