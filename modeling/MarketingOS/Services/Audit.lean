import MarketingOS.Models.Rows

/-!
# Audit diffs

The `{field: {"before", "after"}}` diff an audit row carries. Only fields whose value differs
are in it, and a diff without a field is no diff at all.
-/
namespace MarketingOS

/-- A dict as its keys in order, each with its value; `dict.get` reads an absent key as None. -/
def Json.fieldValue (values : List (String × Json)) (key : String) : Json :=
  (values.lookup key).getD .null

/-- A diff, or none when it has no field. -/
def Changes.orNone (changes : Changes) : Option Changes :=
  if changes.isEmpty then none else some changes

/-- `field_changes` — the fields whose value differs, with both values. -/
def fieldChanges (before after : List (String × Json)) : Option Changes :=
  Changes.orNone ((before.map Prod.fst ++ after.map Prod.fst).eraseDups.filterMap fun key =>
    let was := Json.fieldValue before key
    let is := Json.fieldValue after key
    if was ≠ is then some (key, ⟨was, is⟩) else none)

/-- `created_changes` — each provided field goes from None to its value. -/
def createdChanges (values : List (String × Json)) : Option Changes :=
  Changes.orNone (values.filterMap fun entry =>
    if entry.2 ≠ .null then some (entry.1, ⟨.null, entry.2⟩) else none)

/-- `deleted_changes` — each provided field goes from its value to None. -/
def deletedChanges (values : List (String × Json)) : Option Changes :=
  Changes.orNone (values.filterMap fun entry =>
    if entry.2 ≠ .null then some (entry.1, ⟨entry.2, .null⟩) else none)

/-- An optional text in a diff. -/
def Json.ofText : Option String → Json
  | none => .null
  | some text => .str text

/-- An optional member of an enumeration in a diff. -/
def Json.ofMember {α : Type} [Enumeration α] : Option α → Json
  | none => .null
  | some member => .str (Enumeration.value member)

/-- Every entry of a diff names a field whose value differs. -/
theorem mem_fieldChanges {before after : List (String × Json)} {changes : Changes}
    {entry : String × Change} (diff : fieldChanges before after = some changes)
    (inside : entry ∈ changes) :
    entry.2 = ⟨Json.fieldValue before entry.1, Json.fieldValue after entry.1⟩ ∧
      Json.fieldValue before entry.1 ≠ Json.fieldValue after entry.1 := by
  unfold fieldChanges Changes.orNone at diff
  split at diff
  · cases diff
  · obtain rfl := Option.some.inj diff
    simp only [List.mem_filterMap] at inside
    obtain ⟨key, _, selected⟩ := inside
    split at selected
    · next differs =>
      obtain rfl := Option.some.inj selected
      exact ⟨rfl, differs⟩
    · cases selected

/-- A field of a dict that has a value other than None is one of its keys. -/
theorem Json.mem_keys_of_fieldValue {values : List (String × Json)} {name : String}
    (present : Json.fieldValue values name ≠ .null) : name ∈ values.map Prod.fst := by
  unfold Json.fieldValue at present
  cases found : values.lookup name with
  | none =>
    rw [found] at present
    exact absurd rfl present
  | some value =>
    obtain ⟨before, after, rfl, -⟩ := List.lookup_eq_some_iff.mp found
    simp

/-- A diff has an entry for exactly the fields whose value differs, with both values. -/
theorem entry_fieldChanges_iff {before after : List (String × Json)} {name : String}
    {change : Change} :
    (name, change) ∈ (fieldChanges before after).getD [] ↔
      Json.fieldValue before name ≠ Json.fieldValue after name ∧
        change = ⟨Json.fieldValue before name, Json.fieldValue after name⟩ := by
  constructor
  · intro inside
    cases diff : fieldChanges before after with
    | none =>
      rw [diff] at inside
      cases inside
    | some changes =>
      rw [diff] at inside
      obtain ⟨same, differs⟩ := mem_fieldChanges diff inside
      exact ⟨differs, same⟩
  · rintro ⟨differs, rfl⟩
    have key : name ∈ (before.map Prod.fst ++ after.map Prod.fst).eraseDups := by
      rw [List.mem_eraseDups, List.mem_append]
      by_cases absent : Json.fieldValue before name = .null
      · exact .inr (Json.mem_keys_of_fieldValue fun none => differs (absent.trans none.symm))
      · exact .inl (Json.mem_keys_of_fieldValue absent)
    unfold fieldChanges Changes.orNone
    generalize selection : List.filterMap _ _ = entries
    have entry : (name, (⟨Json.fieldValue before name, Json.fieldValue after name⟩ : Change)) ∈
        entries := by
      rw [← selection]
      exact List.mem_filterMap.mpr ⟨name, key, if_pos differs⟩
    split
    case isTrue empty =>
      rw [List.isEmpty_iff.mp empty] at entry
      cases entry
    case isFalse => exact entry

/-- Different texts are written differently in a diff. -/
theorem Json.ofText_injective : Function.Injective Json.ofText := by
  intro left right same
  cases left <;> cases right <;> simp_all [Json.ofText]

/-- Different members are written differently in a diff. -/
theorem Json.ofMember_injective {α : Type} [Enumeration α] :
    Function.Injective (Json.ofMember : Option α → Json) := by
  intro left right same
  cases left with
  | none => cases right with
    | none => rfl
    | some member => cases same
  | some member => cases right with
    | none => cases same
    | some other => rw [Enumeration.value_injective (Json.str.inj same)]

end MarketingOS
