import MarketingOS.Base.Dict

/-!
# Grouping by a key

A loop files items one after another, each under its key in a dictionary, where the first item of a
key makes the entry and later items add to it. Whatever the order the items of different keys come
in, the entry of a key is what its own items make, and the entries stand in the order of their first
items.
-/
namespace MarketingOS.Grouping

variable {κ ν ι : Type} [DecidableEq κ] (key : ι → κ) (add : Option ν → ι → ν)

/-- Add an item to the entry of its key. -/
def file (d : Dict κ ν) (item : ι) : Dict κ ν := d.set (key item) (add (d.get (key item)) item)

/-- What items of one key make, one after another. -/
def gather (items : List ι) : Option ν := items.foldl (fun v item => some (add v item)) none

/-- The items of a key. -/
def ofKey (k : κ) (items : List ι) : List ι := items.filter fun item => decide (key item = k)

/-- The keys of items, each where it first comes. -/
def firsts (items : List ι) : List κ := (items.map key).eraseDups

variable {key add}

/-- Gathering one more item. -/
theorem gather_concat (items : List ι) (item : ι) :
    gather add (items ++ [item]) = some (add (gather add items) item) := by
  simp only [gather, List.foldl_append, List.foldl_cons, List.foldl_nil]

/-- The keys of one more item. -/
theorem firsts_concat (items : List ι) (item : ι) :
    firsts key (items ++ [item]) =
      if key item ∈ items.map key then firsts key items else firsts key items ++ [key item] := by
  have apart : firsts key (items ++ [item]) =
      firsts key items ++ ([key item].removeAll (items.map key)).eraseDups := by
    simp only [firsts, List.map_append, List.map_cons, List.map_nil, List.eraseDups_append]
  rw [apart]
  split
  · next seen =>
    rw [List.removeAll, List.filter_cons_of_neg (by simpa using seen), List.filter_nil,
      List.eraseDups_nil, List.append_nil]
  · next fresh =>
    rw [List.removeAll, List.filter_cons_of_pos (by simpa using fresh), List.filter_nil,
      List.eraseDups_cons, List.filter_nil, List.eraseDups_nil]

/-- The entry of a key is what its own items make. -/
theorem get_foldl (items : List ι) (k : κ) :
    (items.foldl (file key add) Dict.empty).get k = gather add (ofKey key k items) := by
  induction items using List.reverseRecOn with
  | nil => rfl
  | append_singleton items item ih =>
    rw [List.foldl_append, List.foldl_cons, List.foldl_nil, file, Dict.get_set, ofKey,
      List.filter_append]
    by_cases same : k = key item
    · subst same
      have alone : [item].filter (fun other => decide (key other = key item)) = [item] := by simp
      rw [if_pos rfl, alone, gather_concat, ih, ofKey]
    · have none' : [item].filter (fun other => decide (key other = k)) = [] := by
        simp [Ne.symm same]
      rw [if_neg same, none', List.append_nil, ih, ofKey]

/-- The entries stand in the order of their first items. -/
theorem keys_foldl (items : List ι) :
    (items.foldl (file key add) Dict.empty).entries.map Prod.fst = firsts key items := by
  induction items using List.reverseRecOn with
  | nil => rfl
  | append_singleton items item ih =>
    have listed : key item ∈ items.map key ↔ key item ∈ firsts key items := by
      rw [firsts, List.mem_eraseDups]
    rw [List.foldl_append, List.foldl_cons, List.foldl_nil, file, firsts_concat]
    by_cases seen : key item ∈ items.map key
    · rw [if_pos seen, Dict.keys_set_known _ (ih ▸ listed.mp seen), ih]
    · have fresh : key item ∉ (items.foldl (file key add) Dict.empty).entries.map Prod.fst :=
        fun inside => seen (listed.mpr (ih ▸ inside))
      rw [if_neg seen, Dict.entries_set_new _ fresh, List.map_append, ih]
      rfl

/-- The values in order: for each key, where it first comes, what its own items make. -/
theorem values_foldl (items : List ι) :
    (items.foldl (file key add) Dict.empty).values.map some =
      (firsts key items).map fun k => gather add (ofKey key k items) := by
  rw [Dict.map_some_values, keys_foldl]
  exact List.map_congr_left fun k _ => get_foldl items k

end MarketingOS.Grouping
