import MarketingOS.Base.Dict

/-!
# Bulk upserts

`INSERT ... ON CONFLICT (key) DO UPDATE` on a list of rows. The statement takes its values one
after another, inserts a row whose key is new and updates the row that holds the key, and the
server refuses it as a whole when two of its values have one key. Against it stands the loop that
upserts row by row, where a later row of a key overwrites an earlier one. With the identifiers
left aside both write a dictionary, which is where a batch without its overwritten rows and the
whole batch come to the same.
-/
namespace MarketingOS

namespace Table

variable {ρ κ : Type} [DecidableEq κ] (key : ρ → κ)

/-- Make a row the row under its own key. -/
def write (rows : List ρ) (row : ρ) : List ρ := put key (key row) (some row) rows

variable {key}

/-- Two rewrites under one key are the second, when the first keeps the key. -/
theorem modify_modify_same {rows : List ρ} {k : κ} {first second : ρ → ρ}
    (keeps : ∀ row, key row = k → key (first row) = k) :
    modify key k second (modify key k first rows) = modify key k (second ∘ first) rows := by
  simp only [modify, List.map_map]
  apply List.map_congr_left
  intro row _
  by_cases same : key row = k
  · simp only [Function.comp_apply, if_pos same, if_pos (keeps row same)]
  · simp only [Function.comp_apply, if_neg same]

/-- Rewrites under two keys may be swapped, when both keep the key. -/
theorem modify_modify_comm {rows : List ρ} {k l : κ} {first second : ρ → ρ} (apart : k ≠ l)
    (keepsFirst : ∀ row, key row = k → key (first row) = k)
    (keepsSecond : ∀ row, key row = l → key (second row) = l) :
    modify key l second (modify key k first rows) =
      modify key k first (modify key l second rows) := by
  simp only [modify, List.map_map]
  apply List.map_congr_left
  intro row _
  by_cases isFirst : key row = k
  · have notSecond : key row ≠ l := fun same => apart (isFirst.symm.trans same)
    have stillNot : key (first row) ≠ l := fun same =>
      apart ((keepsFirst row isFirst).symm.trans same)
    simp only [Function.comp_apply, if_pos isFirst, if_neg notSecond, if_neg stillNot]
  · by_cases isSecond : key row = l
    · have stillNot : key (second row) ≠ k :=
        fun same => apart (same.symm.trans (keepsSecond row isSecond))
      simp only [Function.comp_apply, if_neg isFirst, if_pos isSecond, if_neg stillNot]
    · simp only [Function.comp_apply, if_neg isFirst, if_neg isSecond]

/-- Writing a row whose key is there rewrites it in place. -/
theorem write_known {rows : List ρ} {row : ρ} (known : key row ∈ rows.map key) :
    write key rows row = modify key (key row) (fun _ => row) rows := by
  simp only [write, put, has_iff_mem.mpr known, ↓reduceIte]

/-- Writing a row whose key is new appends it. -/
theorem write_new {rows : List ρ} {row : ρ} (absent : key row ∉ rows.map key) :
    write key rows row = rows ++ [row] := by
  have missing : has key rows (key row) = false := by
    rw [← Bool.not_eq_true, has_iff_mem]
    exact absent
  simp only [write, put, missing, Bool.false_eq_true, ↓reduceIte]

/-- The keys of a table after a write. -/
theorem mem_keys_write {rows : List ρ} {row : ρ} {k : κ} :
    k ∈ (write key rows row).map key ↔ k ∈ rows.map key ∨ k = key row := by
  by_cases known : key row ∈ rows.map key
  · rw [write_known known, keys_modify fun _ _ => rfl]
    constructor
    · exact .inl
    · rintro (inside | rfl)
      · exact inside
      · exact known
  · rw [write_new known, List.map_append, List.mem_append, List.map_singleton, List.mem_singleton]

/-- Of two rows written under one key the second stays. -/
theorem write_write_same {rows : List ρ} {first second : ρ} (same : key first = key second) :
    write key (write key rows first) second = write key rows second := by
  have present : key second ∈ (write key rows first).map key :=
    mem_keys_write.mpr (.inr same.symm)
  rw [write_known present]
  by_cases known : key first ∈ rows.map key
  · rw [write_known known, write_known (same ▸ known), ← same, modify_modify_same fun _ _ => rfl]
    rfl
  · have absent : key second ∉ rows.map key := same ▸ known
    rw [write_new known, write_new absent, modify_append, modify_of_absent absent, ← same,
      modify_cons_same]
    rfl

/-- A write under a key that is there may be made before a write under another key. -/
theorem write_write_comm {rows : List ρ} {first second : ρ} (apart : key first ≠ key second)
    (known : key second ∈ rows.map key) :
    write key (write key rows first) second = write key (write key rows second) first := by
  rw [write_known (mem_keys_write.mpr (.inl known)), write_known known]
  by_cases there : key first ∈ rows.map key
  · have still : key first ∈ (modify key (key second) (fun _ => second) rows).map key := by
      rw [keys_modify fun _ _ => rfl]
      exact there
    rw [write_known there, write_known still,
      modify_modify_comm apart (fun _ _ => rfl) fun _ _ => rfl]
  · have still : key first ∉ (modify key (key second) (fun _ => second) rows).map key := by
      rw [keys_modify fun _ _ => rfl]
      exact there
    have single : key second ∉ [first].map key := by simpa using Ne.symm apart
    rw [write_new there, write_new still, modify_append, modify_of_absent single]

/-- A write under a key that is there may be made before any writes under other keys. -/
theorem foldl_write_comm {later rows : List ρ} {row : ρ}
    (apart : ∀ other ∈ later, key other ≠ key row)
    (known : key row ∈ rows.map key) :
    write key (later.foldl (write key) rows) row =
      later.foldl (write key) (write key rows row) := by
  induction later generalizing rows with
  | nil => rfl
  | cons first later ih =>
    have still : key row ∈ (write key rows first).map key := mem_keys_write.mpr (.inl known)
    rw [List.foldl_cons, List.foldl_cons, ih (fun other h => apart other (.tail _ h)) still,
      write_write_comm (apart first (.head _)) known]

/-- Writing the values of a dictionary of pairs is writing the pairs one after another: the
overwritten pairs leave no trace. -/
theorem foldl_write_values {κ' ν : Type} [DecidableEq κ'] {pairs : List (κ' × ν)} (row : ν → ρ)
    (agrees : ∀ p ∈ pairs, ∀ q ∈ pairs, p.1 = q.1 ↔ key (row p.2) = key (row q.2))
    (rows : List ρ) :
    ((Dict.ofList pairs).values.map row).foldl (write key) rows =
      ((pairs.map Prod.snd).map row).foldl (write key) rows := by
  induction pairs using List.reverseRecOn with
  | nil => rfl
  | append_singleton pairs pair ih =>
    have before : ((Dict.ofList pairs).values.map row).foldl (write key) rows =
        ((pairs.map Prod.snd).map row).foldl (write key) rows :=
      ih fun p hp q hq => agrees p (List.mem_append_left _ hp) q (List.mem_append_left _ hq)
    have source (entry : κ' × ν) (inside : entry ∈ (Dict.ofList pairs).entries) :
        entry.1 = pair.1 ↔ key (row entry.2) = key (row pair.2) :=
      agrees entry (List.mem_append_left _ (Dict.entries_ofList_subset inside)) pair (by simp)
    simp only [List.map_append, List.foldl_append, ← before, Dict.ofList_concat,
      List.map_singleton, List.foldl_cons, List.foldl_nil]
    by_cases known : pair.1 ∈ (Dict.ofList pairs).entries.map Prod.fst
    · obtain ⟨front, old, back, split, behind, changed⟩ := Dict.entries_set_known pair.2 known
      have sameKey : key (row old) = key (row pair.2) :=
        (source (pair.1, old) (by rw [split]; simp)).mp rfl
      have otherKeys : ∀ other ∈ (back.map Prod.snd).map row, key other ≠ key (row pair.2) := by
        intro other inside same
        obtain ⟨value, listed, rfl⟩ := List.mem_map.mp inside
        obtain ⟨entry, member, rfl⟩ := List.mem_map.mp listed
        have hit := (source entry (by rw [split]; simp [member])).mpr same
        exact behind (hit ▸ List.mem_map_of_mem member)
      rw [Dict.values, Dict.values, changed, split]
      simp only [List.map_append, List.map_cons, List.foldl_append, List.foldl_cons]
      rw [foldl_write_comm otherKeys (mem_keys_write.mpr (.inr sameKey.symm)),
        write_write_same sameKey]
    · rw [Dict.values, Dict.entries_set_new pair.2 known, List.map_append, List.map_append,
        List.foldl_append]
      rfl

end Table

/-- What an upsert of a table names: the conflict key of a row, the identifier it is inserted
under and the row an update leaves. The columns an update sends are all columns but these. -/
structure Upsert (ρ κ ι : Type) where
  key : ρ → κ
  id : ρ → ι
  withId : ι → ρ → ρ
  /-- The stored row after `DO UPDATE SET`, from the stored row and the excluded one. -/
  setColumns : ρ → ρ → ρ
  key_withId : ∀ i row, key (withId i row) = key row
  id_withId : ∀ i row, id (withId i row) = i
  withId_withId : ∀ i j row, withId i (withId j row) = withId i row
  covers : ∀ stored excluded, key stored = key excluded →
    setColumns stored excluded = withId (id stored) excluded

namespace Upsert

variable {ρ κ ι : Type} {u : Upsert ρ κ ι}

/-- An update keeps the key of the row it updates. -/
theorem key_setColumns {stored excluded : ρ} (same : u.key stored = u.key excluded) :
    u.key (u.setColumns stored excluded) = u.key excluded := by
  rw [u.covers stored excluded same, u.key_withId]

/-- An update keeps the identifier of the row it updates. -/
theorem id_setColumns {stored excluded : ρ} (same : u.key stored = u.key excluded) :
    u.id (u.setColumns stored excluded) = u.id stored := by
  rw [u.covers stored excluded same, u.id_withId]

/-- Two rows that agree but for their identifiers have one key. -/
theorem key_of_withId_eq {left right : ρ} (same : ∀ i, u.withId i left = u.withId i right) :
    u.key left = u.key right := by
  rw [← u.key_withId (u.id left) left, same, u.key_withId]

variable [DecidableEq κ] (u)

/-- Upsert one row. -/
def one (rows : List ρ) (row : ρ) : List ρ :=
  if Table.has u.key rows (u.key row) then
    Table.modify u.key (u.key row) (fun stored => u.setColumns stored row) rows
  else rows ++ [row]

/-- Upsert the rows of a batch one after another. -/
def rowByRow (rows batch : List ρ) : List ρ := batch.foldl u.one rows

/-- One bulk statement. It cannot affect a row a second time, so two values with one conflict key
refuse it. -/
def statement (rows values : List ρ) : Option (List ρ) :=
  if (values.map u.key).Nodup then some (u.rowByRow rows values) else none

/-- A table is what processing a batch row by row leaves, but for the identifiers of new rows;
stored rows stand where they stood under their keys and identifiers, and the rows under other keys
are as they were. -/
structure Matches (rows batch result : List ρ) : Prop where
  same : ∀ i, result.map (u.withId i) = (u.rowByRow rows batch).map (u.withId i)
  kept : ∃ added, result.map (fun row => (u.key row, u.id row)) =
    rows.map (fun row => (u.key row, u.id row)) ++ added
  untouched : ∀ row ∈ rows, u.key row ∉ batch.map u.key → row ∈ result

variable {u}

/-- With identifiers left aside an upsert of one row writes it. -/
theorem map_withId_one (i : ι) (rows : List ρ) (row : ρ) :
    (u.one rows row).map (u.withId i) =
      Table.write u.key (rows.map (u.withId i)) (u.withId i row) := by
  have keys : (rows.map (u.withId i)).map u.key = rows.map u.key := by
    rw [List.map_map]
    exact List.map_congr_left fun old _ => u.key_withId i old
  by_cases known : u.key row ∈ rows.map u.key
  · have there : u.key (u.withId i row) ∈ (rows.map (u.withId i)).map u.key := by
      rw [keys, u.key_withId]
      exact known
    rw [Table.write_known there, one, if_pos (Table.has_iff_mem.mpr known)]
    simp only [Table.modify, List.map_map]
    apply List.map_congr_left
    intro old _
    by_cases same : u.key old = u.key row
    · simp only [Function.comp_apply, if_pos same, u.key_withId, u.covers old row same,
        u.withId_withId]
    · simp only [Function.comp_apply, if_neg same, u.key_withId]
  · have absent : u.key (u.withId i row) ∉ (rows.map (u.withId i)).map u.key := by
      rw [keys, u.key_withId]
      exact known
    rw [Table.write_new absent, one, if_neg (fun present => known (Table.has_iff_mem.mp present)),
      List.map_append, List.map_singleton]

/-- With identifiers left aside a batch is written row after row. -/
theorem map_withId_rowByRow (i : ι) (rows batch : List ρ) :
    (u.rowByRow rows batch).map (u.withId i) =
      (batch.map (u.withId i)).foldl (Table.write u.key) (rows.map (u.withId i)) := by
  induction batch generalizing rows with
  | nil => rfl
  | cons row batch ih =>
    rw [rowByRow, List.foldl_cons, List.map_cons, List.foldl_cons, ← map_withId_one]
    exact ih (u.one rows row)

/-- One upsert keeps stored rows in place, under their keys and identifiers. -/
theorem kept_one (rows : List ρ) (row : ρ) :
    ∃ added, (u.one rows row).map (fun row => (u.key row, u.id row)) =
      rows.map (fun row => (u.key row, u.id row)) ++ added := by
  unfold one
  split
  · refine ⟨[], ?_⟩
    rw [List.append_nil]
    apply Table.map_modify
    intro old same
    rw [key_setColumns same, id_setColumns same, same]
  · exact ⟨[(u.key row, u.id row)], by rw [List.map_append, List.map_singleton]⟩

/-- A batch keeps stored rows in place, under their keys and identifiers. -/
theorem kept_rowByRow (rows batch : List ρ) :
    ∃ added, (u.rowByRow rows batch).map (fun row => (u.key row, u.id row)) =
      rows.map (fun row => (u.key row, u.id row)) ++ added := by
  induction batch generalizing rows with
  | nil => exact ⟨[], (List.append_nil _).symm⟩
  | cons row batch ih =>
    obtain ⟨first, one⟩ := u.kept_one rows row
    obtain ⟨rest, all⟩ := ih (u.one rows row)
    refine ⟨first ++ rest, ?_⟩
    rw [rowByRow, List.foldl_cons, ← List.append_assoc, ← one]
    exact all

/-- A row whose key the batch does not name is as it was. -/
theorem mem_rowByRow {rows batch : List ρ} {row : ρ} (inside : row ∈ rows)
    (unnamed : u.key row ∉ batch.map u.key) : row ∈ u.rowByRow rows batch := by
  induction batch generalizing rows with
  | nil => exact inside
  | cons first batch ih =>
    rw [List.map_cons, List.mem_cons, not_or] at unnamed
    refine ih ?_ unnamed.2
    unfold one
    split
    · exact Table.mem_modify.mpr (.inl ⟨inside, unnamed.1⟩)
    · exact List.mem_append_left _ inside

/-- A batch keeps keys apart. -/
theorem nodup_rowByRow {rows : List ρ} (batch : List ρ) (distinct : (rows.map u.key).Nodup) :
    ((u.rowByRow rows batch).map u.key).Nodup := by
  induction batch generalizing rows with
  | nil => exact distinct
  | cons row batch ih =>
    apply ih
    unfold one
    split
    · rw [Table.keys_modify fun old same => (key_setColumns same).trans rfl]
      exact distinct
    · next missing =>
      rw [List.map_append, List.map_singleton]
      have absent : u.key row ∉ rows.map u.key := fun h => missing (Table.has_iff_mem.mpr h)
      exact List.Nodup.append distinct (List.nodup_singleton _) (by simpa using absent)

/-- Every key a batch names stands in the table afterwards. -/
theorem mem_keys_rowByRow {rows batch : List ρ} {k : κ}
    (named : k ∈ rows.map u.key ∨ k ∈ batch.map u.key) : k ∈ (u.rowByRow rows batch).map u.key := by
  induction batch generalizing rows with
  | nil => exact named.resolve_right List.not_mem_nil
  | cons row batch ih =>
    refine ih (?_ : k ∈ (u.one rows row).map u.key ∨ _)
    by_cases later : k ∈ batch.map u.key
    · exact .inr later
    · have here : k ∈ rows.map u.key ∨ k = u.key row := by simpa [later] using named
      left
      unfold one
      split
      · next present =>
        rw [Table.keys_modify fun old same => (key_setColumns same).trans rfl]
        rcases here with inside | rfl
        · exact inside
        · exact Table.has_iff_mem.mp present
      · rw [List.map_append, List.map_singleton, List.mem_append, List.mem_singleton]
        exact here

/-- Every row after a batch is a stored row under a key the batch does not name, or a row of the
batch, but for its identifier. -/
theorem rowByRow_origin {rows batch : List ρ} {row : ρ} (inside : row ∈ u.rowByRow rows batch) :
    (row ∈ rows ∧ u.key row ∉ batch.map u.key) ∨
      ∃ sent ∈ batch, ∀ i, u.withId i row = u.withId i sent := by
  induction batch generalizing rows with
  | nil => exact .inl ⟨inside, List.not_mem_nil⟩
  | cons first batch ih =>
    have rest : row ∈ u.rowByRow (u.one rows first) batch := inside
    rcases ih rest with ⟨before, unnamed⟩ | ⟨sent, listed, same⟩
    · unfold one at before
      split at before
      · rcases Table.mem_modify.mp before with ⟨old, apart⟩ | ⟨old, -, hit, rfl⟩
        · refine .inl ⟨old, ?_⟩
          rw [List.map_cons, List.mem_cons, not_or]
          exact ⟨apart, unnamed⟩
        · refine .inr ⟨first, List.mem_cons_self, fun i => ?_⟩
          rw [u.covers old first hit, u.withId_withId]
      · next missing =>
        rw [List.mem_append, List.mem_singleton] at before
        rcases before with old | rfl
        · refine .inl ⟨old, ?_⟩
          rw [List.map_cons, List.mem_cons, not_or]
          refine ⟨fun hit => missing ?_, unnamed⟩
          exact Table.has_iff_mem.mpr (hit ▸ List.mem_map_of_mem old)
        · exact .inr ⟨row, List.mem_cons_self, fun _ => rfl⟩
    · exact .inr ⟨sent, List.mem_cons_of_mem _ listed, same⟩

/-- A statement on the values of a dictionary of the batch is always accepted, and leaves what the
whole batch leaves row by row. -/
theorem statement_values {κ' : Type} [DecidableEq κ'] {pairs : List (κ' × ρ)}
    (agrees : ∀ p ∈ pairs, ∀ q ∈ pairs, p.1 = q.1 ↔ u.key p.2 = u.key q.2) (rows : List ρ) :
    ∃ result, u.statement rows (Dict.ofList pairs).values = some result ∧
      u.Matches rows (pairs.map Prod.snd) result := by
  have source {entry : κ' × ρ} (inside : entry ∈ (Dict.ofList pairs).entries) : entry ∈ pairs :=
    Dict.entries_ofList_subset inside
  have distinct : ((Dict.ofList pairs).values.map u.key).Nodup := by
    rw [Dict.values, List.map_map]
    refine List.Nodup.map_on ?_ (List.Nodup.of_map Prod.fst (Dict.ofList pairs).distinct)
    intro p hp q hq same
    have sameFst := (agrees p (source hp) q (source hq)).mpr same
    exact List.inj_on_of_nodup_map (Dict.ofList pairs).distinct hp hq sameFst
  refine ⟨u.rowByRow rows (Dict.ofList pairs).values, if_pos distinct, ?_, ?_, ?_⟩
  · intro i
    rw [map_withId_rowByRow, map_withId_rowByRow]
    apply Table.foldl_write_values (u.withId i)
    intro p hp q hq
    rw [u.key_withId, u.key_withId]
    exact agrees p hp q hq
  · exact u.kept_rowByRow rows _
  · intro row inside unnamed
    refine mem_rowByRow inside fun named => unnamed ?_
    obtain ⟨value, member, same⟩ := List.mem_map.mp named
    obtain ⟨entry, listed, rfl⟩ := List.mem_map.mp member
    exact List.mem_map.mpr ⟨entry.2, List.mem_map_of_mem (source listed), same⟩

/-- Every row a matching upsert leaves is a stored row under a key the batch does not name, or a row
of the batch, but for its identifier. -/
theorem Matches.origin {rows batch result : List ρ} (leaves : u.Matches rows batch result) {row : ρ}
    (inside : row ∈ result) :
    (u.key row ∉ batch.map u.key ∧ ∃ stored ∈ rows, ∀ i, u.withId i row = u.withId i stored) ∨
      ∃ sent ∈ batch, ∀ i, u.withId i row = u.withId i sent := by
  have shared : u.withId (u.id row) row ∈ (u.rowByRow rows batch).map (u.withId (u.id row)) := by
    rw [← leaves.same]
    exact List.mem_map_of_mem inside
  obtain ⟨other, listed, alike⟩ := List.mem_map.mp shared
  have every (i : ι) : u.withId i row = u.withId i other := by
    rw [← u.withId_withId i (u.id row) row, ← alike, u.withId_withId]
  rcases rowByRow_origin listed with ⟨stored, unnamed⟩ | ⟨sent, member, same⟩
  · exact .inl ⟨key_of_withId_eq every ▸ unnamed, other, stored, every⟩
  · exact .inr ⟨sent, member, fun i => (every i).trans (same i)⟩

/-- After a matching upsert every key the batch names holds a row of the batch, but for its
identifier. -/
theorem Matches.named {rows batch result : List ρ} (leaves : u.Matches rows batch result) {row : ρ}
    (inside : row ∈ result) (named : u.key row ∈ batch.map u.key) :
    ∃ sent ∈ batch, ∀ i, u.withId i row = u.withId i sent :=
  (leaves.origin inside).resolve_left fun stored => stored.1 named

/-- After a matching upsert a key stands in the table when it stood there before or the batch
names it. -/
theorem Matches.mem_keys {rows batch result : List ρ} (leaves : u.Matches rows batch result) {k : κ}
    (named : k ∈ rows.map u.key ∨ k ∈ batch.map u.key) : k ∈ result.map u.key := by
  obtain ⟨row, inside, rfl⟩ := List.mem_map.mp (mem_keys_rowByRow named)
  have shared : u.withId (u.id row) row ∈ result.map (u.withId (u.id row)) := by
    rw [leaves.same]
    exact List.mem_map_of_mem inside
  obtain ⟨other, listed, alike⟩ := List.mem_map.mp shared
  refine List.mem_map.mpr ⟨other, listed, ?_⟩
  rw [← u.key_withId (u.id row) other, alike, u.key_withId]

/-- A matching upsert keeps keys apart. -/
theorem Matches.nodup {rows batch result : List ρ} (leaves : u.Matches rows batch result)
    (distinct : (rows.map u.key).Nodup) : (result.map u.key).Nodup := by
  have keys (i : ι) (table : List ρ) : (table.map (u.withId i)).map u.key = table.map u.key := by
    rw [List.map_map]
    exact List.map_congr_left fun row _ => u.key_withId i row
  cases result with
  | nil => exact List.nodup_nil
  | cons row result =>
    rw [← keys (u.id row), leaves.same, keys]
    exact nodup_rowByRow batch distinct

/-! ## Rows under a key -/

/-- Setting identifiers does not move rows. -/
theorem get_map_withId (i : ι) (rows : List ρ) (k : κ) :
    Table.get u.key (rows.map (u.withId i)) k = (Table.get u.key rows k).map (u.withId i) := by
  induction rows with
  | nil => rfl
  | cons row rows ih =>
    rw [List.map_cons, Table.get_cons, Table.get_cons, u.key_withId, ih]
    split <;> rfl

/-- After a batch row by row a key holds the last row of the batch under it, but for its identifier,
or else what it held. -/
theorem get_rowByRow (i : ι) (rows batch : List ρ) (k : κ) :
    (Table.get u.key (u.rowByRow rows batch) k).map (u.withId i) =
      ((batch.filter fun row => u.key row = k).getLast?.or (Table.get u.key rows k)).map
        (u.withId i) := by
  induction batch using List.reverseRecOn with
  | nil => rfl
  | append_singleton batch row ih =>
    rw [rowByRow, List.foldl_append, List.foldl_cons, List.foldl_nil, ← rowByRow,
      ← get_map_withId, map_withId_one, List.filter_append, Table.write]
    by_cases same : u.key row = k
    · have own : u.key (u.withId i row) = k := (u.key_withId i row).trans same
      rw [own, Table.get_put_same fun new isNew => Option.some.inj isNew ▸ own]
      simp [same]
    · have other : k ≠ u.key (u.withId i row) := by
        rw [u.key_withId]
        exact Ne.symm same
      rw [Table.get_put_other (fun new isNew => congrArg u.key (Option.some.inj isNew).symm) other,
        get_map_withId, ih]
      simp [same]

/-- After a matching upsert every key the batch names has one row, and it is the last row of the
batch under the key, but for its identifier. -/
theorem Matches.only {rows batch result : List ρ} (leaves : u.Matches rows batch result)
    (distinct : (rows.map u.key).Nodup) {k : κ} (named : k ∈ batch.map u.key) :
    ∃ stored sent, (result.filter fun row => u.key row = k) = [stored] ∧
      (batch.filter fun row => u.key row = k).getLast? = some sent ∧
      ∀ i, u.withId i stored = u.withId i sent := by
  obtain ⟨first, inside, rfl⟩ := List.mem_map.mp named
  obtain ⟨sent, last⟩ : ∃ sent,
      (batch.filter fun row => u.key row = u.key first).getLast? = some sent := by
    refine Option.isSome_iff_exists.mp (List.getLast?_isSome.mpr ?_)
    exact List.ne_nil_of_mem (List.mem_filter.mpr ⟨inside, decide_eq_true rfl⟩)
  have held (i : ι) : (Table.get u.key result (u.key first)).map (u.withId i) =
      some (u.withId i sent) := by
    rw [← get_map_withId, leaves.same, get_map_withId, get_rowByRow, last]
    rfl
  obtain ⟨stored, found, -⟩ := Option.map_eq_some_iff.mp (held (u.id first))
  refine ⟨stored, sent, Table.filter_key_eq (leaves.nodup distinct) found, last, fun i => ?_⟩
  simpa [found] using held i

/-- A key that a batch does not name holds what it held. -/
theorem get_rowByRow_unnamed {rows batch : List ρ} {k : κ} (unnamed : k ∉ batch.map u.key) :
    Table.get u.key (u.rowByRow rows batch) k = Table.get u.key rows k := by
  induction batch generalizing rows with
  | nil => rfl
  | cons row batch ih =>
    rw [List.map_cons, List.mem_cons, not_or] at unnamed
    rw [rowByRow, List.foldl_cons, ← rowByRow, ih unnamed.2]
    unfold one
    split
    · exact Table.get_modify_other (fun old same => (key_setColumns same).trans rfl) unnamed.1
    · simp [Table.get, List.find?_append, Ne.symm unnamed.1]

end Upsert

end MarketingOS
