import Mathlib.Data.List.Dedup
import Mathlib.Data.List.Induction
import MarketingOS.Base.Table

/-!
# Dictionaries

A dictionary keeps its entries in the order their keys were first set, and setting a key again
changes its value in place. No key stands twice, and the value carries the proof. Setting the
pairs of a list one after another is what a dictionary display and a loop of assignments do.
-/
namespace MarketingOS

namespace Table

variable {ρ κ : Type} [DecidableEq κ] {key : ρ → κ}

/-- Whether a key stands in a table, read off the keys. -/
theorem has_iff_mem {rows : List ρ} {k : κ} : has key rows k = true ↔ k ∈ rows.map key := by
  simp only [has, List.any_eq_true, decide_eq_true_eq, List.mem_map]

/-- A rewrite that keeps keys keeps the list of keys. -/
theorem keys_modify {rows : List ρ} {k : κ} {change : ρ → ρ}
    (keeps : ∀ row, key row = k → key (change row) = k) :
    (modify key k change rows).map key = rows.map key :=
  map_modify change key fun row same => (keeps row same).trans same.symm

/-- A rewrite under a key no row stands under changes nothing. -/
theorem modify_of_absent {rows : List ρ} {k : κ} {change : ρ → ρ} (absent : k ∉ rows.map key) :
    modify key k change rows = rows := by
  have same : ∀ row ∈ rows, (if key row = k then change row else row) = row := by
    intro row inside
    rw [if_neg]
    rintro rfl
    exact absent (List.mem_map_of_mem inside)
  rw [modify, List.map_congr_left same, List.map_id']

/-- A rewrite goes through both halves of a table. -/
theorem modify_append {front back : List ρ} {k : κ} {change : ρ → ρ} :
    modify key k change (front ++ back) = modify key k change front ++ modify key k change back :=
  List.map_append

/-- A rewrite changes a first row that stands under the key. -/
theorem modify_cons_same (row : ρ) {rows : List ρ} {change : ρ → ρ} :
    modify key (key row) change (row :: rows) = change row :: modify key (key row) change rows := by
  rw [modify, List.map_cons, if_pos rfl, modify]

/-- A lookup looks at the first row first. -/
theorem get_cons (row : ρ) (rows : List ρ) (k : κ) :
    get key (row :: rows) k = if key row = k then some row else get key rows k := by
  by_cases same : key row = k
  · simp [get, same]
  · simp [get, same]

/-- Where no key occurs twice, a key has the row a lookup finds and no other. -/
theorem filter_key_eq {rows : List ρ} (distinct : (rows.map key).Nodup) {k : κ} {row : ρ}
    (found : get key rows k = some row) :
    (rows.filter fun other => key other = k) = [row] := by
  induction rows with
  | nil => cases found
  | cons first rest ih =>
    have ⟨fresh, distinct'⟩ := List.nodup_cons.mp distinct
    rw [get_cons] at found
    split at found
    · next same =>
      obtain rfl := Option.some.inj found
      have others : (rest.filter fun other => key other = k) = [] := by
        refine List.filter_eq_nil_iff.mpr fun other inside hit => fresh ?_
        rw [same, ← of_decide_eq_true hit]
        exact List.mem_map_of_mem inside
      rw [List.filter_cons_of_pos (by simpa using same), others]
    · next other =>
      rw [List.filter_cons_of_neg (by simpa using other)]
      exact ih distinct' found

/-- Nothing is found under a key that is not there. -/
theorem get_of_absent {rows : List ρ} {k : κ} (absent : k ∉ rows.map key) :
    get key rows k = none := by
  rw [get, List.find?_eq_none]
  intro row inside named
  rw [decide_eq_true_eq] at named
  exact absent (named ▸ List.mem_map_of_mem inside)

/-- Putting a row under its own key keeps keys apart. -/
theorem nodup_put {rows : List ρ} (row : ρ) (distinct : (rows.map key).Nodup) :
    ((put key (key row) (some row) rows).map key).Nodup := by
  by_cases present : has key rows (key row) = true
  · simp only [put, present, ↓reduceIte]
    rw [keys_modify fun _ _ => rfl]
    exact distinct
  · have absent : key row ∉ rows.map key := fun inside => present (has_iff_mem.mpr inside)
    simp only [put, present, Bool.false_eq_true, ↓reduceIte, List.map_append, List.map_cons,
      List.map_nil]
    exact List.Nodup.append distinct (List.nodup_singleton _) (by simpa using absent)

end Table

/-- A dictionary: entries in insertion order, no key twice. -/
structure Dict (κ ν : Type) where
  entries : List (κ × ν)
  distinct : (entries.map Prod.fst).Nodup
deriving DecidableEq

namespace Dict

variable {κ ν : Type} [DecidableEq κ]

/-- `{}` -/
def empty : Dict κ ν := ⟨[], List.nodup_nil⟩

/-- `d.get(k)` -/
def get (d : Dict κ ν) (k : κ) : Option ν := (Table.get Prod.fst d.entries k).map Prod.snd

/-- `k in d` -/
def Has (d : Dict κ ν) (k : κ) : Prop := ∃ v, d.get k = some v

/-- `d[k] = v` -/
def set (d : Dict κ ν) (k : κ) (v : ν) : Dict κ ν :=
  ⟨Table.put Prod.fst k (some (k, v)) d.entries, Table.nodup_put (k, v) d.distinct⟩

/-- The dictionary of a list of pairs; the last pair of a key gives its value. -/
def ofList (pairs : List (κ × ν)) : Dict κ ν :=
  pairs.foldl (fun d pair => d.set pair.1 pair.2) empty

/-- `d.values()` -/
def values (d : Dict κ ν) : List ν := d.entries.map Prod.snd

@[simp] theorem get_empty (k : κ) : (empty : Dict κ ν).get k = none := rfl

/-- A key that was set is found. -/
@[simp] theorem get_set_same (d : Dict κ ν) (k : κ) (v : ν) : (d.set k v).get k = some v := by
  rw [get, set, Table.get_put_same (by rintro _ ⟨⟩; rfl)]
  rfl

/-- Setting one key is not seen under another. -/
theorem get_set_other {d : Dict κ ν} {k other : κ} {v : ν} (apart : other ≠ k) :
    (d.set k v).get other = d.get other := by
  rw [get, set, Table.get_put_other (by rintro _ ⟨⟩; rfl) apart, get]

/-- A lookup after setting a key. -/
theorem get_set (d : Dict κ ν) (k other : κ) (v : ν) :
    (d.set k v).get other = if other = k then some v else d.get other := by
  split
  · next same => rw [same, get_set_same]
  · next apart => exact get_set_other apart

/-- The entries of a dictionary are what its lookups return. -/
theorem mem_entries {d : Dict κ ν} {k : κ} {v : ν} : (k, v) ∈ d.entries ↔ d.get k = some v := by
  constructor
  · intro inside
    have found := Table.get_of_mem d.distinct inside
    rw [get, found, Option.map_some]
  · intro found
    obtain ⟨⟨k', v'⟩, lookup, rfl⟩ := Option.map_eq_some_iff.mp found
    obtain rfl : k' = k := Table.get_key lookup
    exact Table.get_mem lookup

/-- The keys of a dictionary are those its lookups find. -/
theorem mem_keys {d : Dict κ ν} {k : κ} :
    k ∈ d.entries.map Prod.fst ↔ ∃ v, d.get k = some v := by
  constructor
  · intro inside
    obtain ⟨⟨_, v⟩, member, rfl⟩ := List.mem_map.mp inside
    exact ⟨v, mem_entries.mp member⟩
  · rintro ⟨v, found⟩
    exact List.mem_map.mpr ⟨(k, v), mem_entries.mpr found, rfl⟩

/-- A dictionary is empty when nothing is found in it. -/
theorem entries_eq_nil_iff {d : Dict κ ν} : d.entries = [] ↔ ∀ k, d.get k = none := by
  constructor
  · intro bare k
    rw [get, bare]
    rfl
  · intro silent
    rw [List.eq_nil_iff_forall_not_mem]
    rintro ⟨k, v⟩ inside
    rw [mem_entries, silent k] at inside
    cases inside

/-- The entries a condition keeps. -/
def filter (keep : κ → ν → Bool) (d : Dict κ ν) : Dict κ ν :=
  ⟨d.entries.filter fun entry => keep entry.1 entry.2,
    (List.filter_sublist.map Prod.fst).nodup d.distinct⟩

/-- `del d[k]` -/
def erase (d : Dict κ ν) (k : κ) : Dict κ ν := d.filter fun other _ => other ≠ k

/-- Another value for every key. -/
def mapValues (change : ν → ν) (d : Dict κ ν) : Dict κ ν :=
  ⟨d.entries.map fun entry => (entry.1, change entry.2), by
    simpa only [List.map_map, Function.comp_def] using d.distinct⟩

/-- A lookup among the entries that are kept. -/
theorem get_filter (keep : κ → ν → Bool) (d : Dict κ ν) (k : κ) :
    (d.filter keep).get k = (d.get k).filter (keep k) := by
  apply Option.ext
  intro v
  rw [← mem_entries, Option.filter_eq_some_iff, ← mem_entries]
  simp [filter]

/-- A lookup after a key was deleted. -/
theorem get_erase (d : Dict κ ν) (k other : κ) :
    (d.erase k).get other = if other = k then none else d.get other := by
  rw [erase, get_filter]
  by_cases same : other = k
  · simp [same]
  · cases d.get other <;> simp [same]

/-- A lookup of a changed value. -/
theorem get_mapValues (change : ν → ν) (d : Dict κ ν) (k : κ) :
    (d.mapValues change).get k = (d.get k).map change := by
  simp only [get, mapValues, Table.get, List.find?_map, Option.map_map]
  rfl

/-- Merge the entries of one dictionary into another: each sets its key to what it makes of the
value there. -/
def merge (combine : Option ν → ν → ν) (d added : Dict κ ν) : Dict κ ν :=
  added.entries.foldl (fun d entry => d.set entry.1 (combine (d.get entry.1) entry.2)) d

/-- A lookup in a merged dictionary. -/
theorem get_merge (combine : Option ν → ν → ν) (d added : Dict κ ν) (k : κ) :
    (merge combine d added).get k =
      match added.get k with
      | none => d.get k
      | some v => some (combine (d.get k) v) := by
  obtain ⟨entries, distinct⟩ := added
  show (entries.foldl _ d).get k = match (Table.get Prod.fst entries k).map Prod.snd with
    | none => d.get k
    | some v => some (combine (d.get k) v)
  induction entries generalizing d with
  | nil => rfl
  | cons entry rest ih =>
    have ⟨fresh, apart⟩ := List.nodup_cons.mp distinct
    rw [List.foldl_cons, ih _ apart, get_set, Table.get_cons]
    by_cases same : k = entry.1
    · rw [if_pos same, if_pos same.symm, Table.get_of_absent (same ▸ fresh), same]
      rfl
    · rw [if_neg same, if_neg (Ne.symm same)]

/-- A dictionary after one more pair. -/
theorem ofList_concat (pairs : List (κ × ν)) (pair : κ × ν) :
    ofList (pairs ++ [pair]) = (ofList pairs).set pair.1 pair.2 := by
  simp only [ofList, List.foldl_append, List.foldl_cons, List.foldl_nil]

/-- Setting a new key appends an entry. -/
theorem entries_set_new {d : Dict κ ν} {k : κ} (v : ν) (absent : k ∉ d.entries.map Prod.fst) :
    (d.set k v).entries = d.entries ++ [(k, v)] := by
  have missing : Table.has Prod.fst d.entries k = false := by
    rw [← Bool.not_eq_true, Table.has_iff_mem]
    exact absent
  simp only [set, Table.put, missing, Bool.false_eq_true, ↓reduceIte]

/-- Setting a known key changes one entry in place. -/
theorem entries_set_known {d : Dict κ ν} {k : κ} (v : ν) (known : k ∈ d.entries.map Prod.fst) :
    ∃ front old back, d.entries = front ++ (k, old) :: back ∧
      k ∉ back.map Prod.fst ∧ (d.set k v).entries = front ++ (k, v) :: back := by
  obtain ⟨⟨k, old⟩, member, rfl⟩ := List.mem_map.mp known
  obtain ⟨front, back, split⟩ := List.append_of_mem member
  have distinct := d.distinct
  rw [split, List.map_append, List.map_cons, List.nodup_middle, List.nodup_cons,
    List.mem_append, not_or] at distinct
  obtain ⟨⟨ahead, behind⟩, -⟩ := distinct
  refine ⟨front, old, back, split, behind, ?_⟩
  have present : Table.has Prod.fst d.entries k = true := Table.has_iff_mem.mpr known
  have entries : (d.set k v).entries = Table.modify Prod.fst k (fun _ => (k, v)) d.entries := by
    simp only [set, Table.put, present, ↓reduceIte]
  rw [entries, split, Table.modify_append, Table.modify_of_absent ahead,
    Table.modify_cons_same (k, old), Table.modify_of_absent behind]

/-- The entries of a dictionary made from pairs are some of the pairs. -/
theorem entries_ofList_subset {pairs : List (κ × ν)} {entry : κ × ν}
    (inside : entry ∈ (ofList pairs).entries) : entry ∈ pairs := by
  induction pairs using List.reverseRecOn with
  | nil => exact absurd inside List.not_mem_nil
  | append_singleton pairs pair ih =>
    rw [ofList_concat] at inside
    by_cases known : pair.1 ∈ (ofList pairs).entries.map Prod.fst
    · obtain ⟨front, old, back, split, -, changed⟩ := entries_set_known pair.2 known
      rw [changed, List.mem_append, List.mem_cons] at inside
      rw [List.mem_append, List.mem_singleton]
      rcases inside with ahead | rfl | behind
      · exact .inl (ih (split ▸ List.mem_append_left _ ahead))
      · exact .inr rfl
      · exact .inl (ih (split ▸ List.mem_append_right _ (List.mem_cons_of_mem _ behind)))
    · rw [entries_set_new pair.2 known, List.mem_append] at inside
      rw [List.mem_append]
      exact inside.imp ih id

/-- A lookup in a dictionary made from pairs returns one of the pairs. -/
theorem mem_of_get_ofList {pairs : List (κ × ν)} {k : κ} {v : ν}
    (found : (ofList pairs).get k = some v) : (k, v) ∈ pairs :=
  entries_ofList_subset (mem_entries.mpr found)

/-- The keys of a dictionary made from pairs are the keys of the pairs. -/
theorem mem_keys_ofList {pairs : List (κ × ν)} {k : κ} :
    k ∈ (ofList pairs).entries.map Prod.fst ↔ k ∈ pairs.map Prod.fst := by
  induction pairs using List.reverseRecOn with
  | nil => rfl
  | append_singleton pairs pair ih =>
    rw [ofList_concat, mem_keys, List.map_append, List.mem_append, ← ih, mem_keys,
      List.map_singleton, List.mem_singleton]
    simp only [get_set]
    by_cases same : k = pair.1
    · simp [same]
    · simp [same]

/-- When no key occurs twice, a dictionary made from pairs finds every pair. -/
theorem get_ofList_of_mem {pairs : List (κ × ν)} {k : κ} {v : ν}
    (distinct : (pairs.map Prod.fst).Nodup) (inside : (k, v) ∈ pairs) :
    (ofList pairs).get k = some v := by
  have known : k ∈ (ofList pairs).entries.map Prod.fst :=
    mem_keys_ofList.mpr (List.mem_map_of_mem inside)
  obtain ⟨found, lookup⟩ := mem_keys.mp known
  have same := List.inj_on_of_nodup_map distinct (mem_of_get_ofList lookup) inside rfl
  rw [lookup, (Prod.mk.inj same).2]

/-- Setting a known key keeps the keys. -/
theorem keys_set_known {d : Dict κ ν} {k : κ} (v : ν) (known : k ∈ d.entries.map Prod.fst) :
    (d.set k v).entries.map Prod.fst = d.entries.map Prod.fst := by
  have present : Table.has Prod.fst d.entries k = true := Table.has_iff_mem.mpr known
  simp only [set, Table.put, present, ↓reduceIte]
  exact Table.keys_modify fun _ _ => rfl

/-- The values are what lookups of the keys return. -/
theorem map_some_values (d : Dict κ ν) : d.values.map some = (d.entries.map Prod.fst).map d.get := by
  rw [values, List.map_map, List.map_map]
  exact List.map_congr_left fun entry inside => (mem_entries.mp inside).symm

/-- A lookup in a dictionary made from pairs returns the last value of its key. -/
theorem get_ofList (pairs : List (κ × ν)) (k : κ) :
    (ofList pairs).get k = (pairs.filter fun pair => pair.1 = k).getLast?.map Prod.snd := by
  induction pairs using List.reverseRecOn with
  | nil => rfl
  | append_singleton pairs pair ih =>
    rw [ofList_concat, get_set, ih, List.filter_append]
    by_cases same : k = pair.1
    · simp [same]
    · simp [same, Ne.symm same]

/-- A dictionary made from pairs has a value for every key that occurs. -/
theorem length_values_ofList (pairs : List (κ × ν)) :
    (ofList pairs).values.length = (pairs.map Prod.fst).dedup.length := by
  have keys : ((ofList pairs).entries.map Prod.fst).Perm (pairs.map Prod.fst).dedup := by
    rw [List.perm_ext_iff_of_nodup (ofList pairs).distinct (List.nodup_dedup _)]
    intro k
    rw [mem_keys_ofList, List.mem_dedup]
  rw [← keys.length_eq, values, List.length_map, List.length_map]

end Dict

end MarketingOS
