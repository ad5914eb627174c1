import Mathlib.Data.List.Nodup
import Mathlib.Tactic.IntervalCases
import MarketingOS.Ai.PlanGeneration
import MarketingOS.Base.Traverse
import MarketingOS.Services.PlanGeneration

/-!
# Usable plans

Every item the agent drafts for a range is one the calendar can take, and there is at least one.
What the model answered can spoil this in two ways: `json.loads` may raise what the reader does not
expect, and a list or a dictionary in the place of a platform or a category has no hash. Both are
judged on the answer alone, so the plan is usable exactly when the answer is readable.
-/
namespace MarketingOS.PlanGenerationAgent

variable {ν : Type} (fromisoformat : String → Option Date) {startDate endDate : Date}

/-- A text with a character that is no blank. -/
def NonBlank (text : String) : Prop := ∃ c ∈ text.toList, isSpace c = false

/-- An item the calendar can take. -/
structure UsableItem (startDate endDate : Date) (item : ProposedItem) : Prop where
  inRange : startDate ≤ item.eventDate ∧ item.eventDate ≤ endDate
  title : NonBlank item.title ∧ item.title.length ≤ 200
  platform : ∃ platform : SocialPlatform, Enumeration.value platform = item.platform
  category : ∃ category : TaskCategory, Enumeration.value category = item.category

/-- A plan of 1 to 40 items the calendar can take. -/
structure Usable (startDate endDate : Date) (items : List ProposedItem) : Prop where
  count : 1 ≤ items.length ∧ items.length ≤ 40
  each : ∀ item ∈ items, UsableItem startDate endDate item

/-- At most six items on different days, the first of them on the first day. -/
structure Spread (startDate : Date) (items : List ProposedItem) : Prop where
  few : items.length ≤ 6
  apart : (items.map ProposedItem.eventDate).Nodup
  first : items.head?.map ProposedItem.eventDate = some startDate

/-- An entry of the model's list that `_parse_one_item` can read: one with a title has a platform
and a category with a hash. -/
def Clean : JsonValue ν → Prop
  | .dict payload => (cleanStr 200 (JsonValue.get payload "title")).isSome →
      (JsonValue.get payload "platform").hashable ∧ (JsonValue.get payload "category").hashable
  | _ => True

/-- An answer that can be read: `json.loads` returns or raises a `JSONDecodeError`, and the first
40 entries of the list it returns are clean. -/
def Readable (loads : String → Except LoadsError (JsonValue ν)) (raw : String) : Prop :=
  ∀ body, outermostBraces raw = some body →
    (∀ error, loads body = .error error → error = .jsonDecodeError) ∧
    ∀ payload items, loads body = .ok (.dict payload) →
      JsonValue.get payload "items" = .list items → ∀ entry ∈ items.take maxRangeItems, Clean entry

/-! ## One item -/

/-- A cleaned text is not blank and within its bound. -/
theorem cleanStr_spec {maxLength : Nat} (positive : 0 < maxLength) {value : JsonValue ν}
    {text : String} (cleaned : cleanStr maxLength value = some text) :
    NonBlank text ∧ text.length ≤ maxLength := by
  cases value with
  | str value =>
    simp only [cleanStr, Option.ite_none_left_eq_some, Option.some.injEq] at cleaned
    obtain ⟨filled, rfl⟩ := cleaned
    have front := dropWhile_stripChars value.toList
    constructor
    · cases shape : stripChars value.toList with
      | nil => exact absurd (by rw [strip, shape]) filled
      | cons c rest =>
        refine ⟨c, ?_, ?_⟩
        · obtain ⟨bound, rfl⟩ := Nat.exists_eq_add_of_le' positive
          simp [clip, strip, shape]
        · by_contra blank
          have shorter := (List.dropWhile_sublist isSpace (l := rest)).length_le
          rw [shape, List.dropWhile_cons_of_pos (by simpa using blank)] at front
          rw [front, List.length_cons] at shorter
          omega
    · simp only [clip, String.length_ofList, List.length_take]
      omega
  | _ => cases cleaned

/-- A value with a hash is replaced by the default unless it is a name of the set. -/
theorem oneOf_of_hashable {names : List String} {default : String} (known : default ∈ names)
    {value : JsonValue ν} (hashable : value.hashable = true) :
    ∃ chosen, oneOf names default value = .ok chosen ∧ chosen ∈ names := by
  cases value with
  | str value =>
    refine ⟨_, rfl, ?_⟩
    split
    · assumption
    · exact known
  | list items => cases hashable
  | dict entries => cases hashable
  | _ => exact ⟨_, rfl, known⟩

/-- A value without a hash is refused. -/
theorem oneOf_of_unhashable (names : List String) (default : String) {value : JsonValue ν}
    (unhashable : value.hashable = false) :
    ∃ text, oneOf names default value = .error (.typeError text) := by
  cases value with
  | list items => exact ⟨_, rfl⟩
  | dict entries => exact ⟨_, rfl⟩
  | _ => cases unhashable

/-- A platform of the set is the value of one. -/
theorem platform_of_valid {name : String} (valid : name ∈ validPlatforms) :
    ∃ platform : SocialPlatform, Enumeration.value platform = name := by
  obtain ⟨platform, _, same⟩ := List.mem_map.mp valid
  exact ⟨platform, same⟩

/-- A category of the set is the value of one. -/
theorem category_of_valid {name : String} (valid : name ∈ validCategories) :
    ∃ category : TaskCategory, Enumeration.value category = name := by
  obtain ⟨category, _, same⟩ := List.mem_map.mp valid
  exact ⟨category, same⟩

/-- The default platform is one of the set. -/
theorem defaultPlatform_valid : defaultPlatform ∈ validPlatforms := by
  simp [defaultPlatform, validPlatforms, Enumeration.members]

/-- The default category is one of the set. -/
theorem defaultCategory_valid : defaultCategory ∈ validCategories := by
  simp [defaultCategory, validCategories, Enumeration.members]

/-- An item the service can store: one the calendar can take, whose format fits its column. -/
structure Storable (startDate endDate : Date) (item : ProposedItem) : Prop
    extends UsableItem startDate endDate item where
  format : ∀ format ∈ item.contentFormat, 1 ≤ format.length ∧ format.length ≤ 30

/-- A text that is not blank has a character. -/
theorem NonBlank.length {text : String} (filled : NonBlank text) : 1 ≤ text.length := by
  obtain ⟨c, inside, _⟩ := filled
  rw [← String.length_toList]
  exact List.length_pos_of_mem inside

/-- A clean dictionary is read as no item or as one that can be stored. -/
theorem parseOneItem_of_clean {payload : List (String × JsonValue ν)} {eventDate : Date}
    (inRange : startDate ≤ eventDate ∧ eventDate ≤ endDate)
    (clean : Clean (.dict payload : JsonValue ν)) :
    ∃ parsed, parseOneItem payload eventDate = .ok parsed ∧
      ∀ item ∈ parsed, Storable startDate endDate item := by
  unfold parseOneItem
  cases named : cleanStr 200 (JsonValue.get payload "title") with
  | none => exact ⟨none, rfl, by simp⟩
  | some title =>
    obtain ⟨hashPlatform, hashCategory⟩ := clean (by rw [named]; rfl)
    obtain ⟨platform, isPlatform, validPlatform⟩ :=
      oneOf_of_hashable defaultPlatform_valid hashPlatform
    obtain ⟨category, isCategory, validCategory⟩ :=
      oneOf_of_hashable defaultCategory_valid hashCategory
    simp only [isPlatform, isCategory]
    refine ⟨_, rfl, ?_⟩
    rintro _ ⟨⟩
    refine ⟨⟨inRange, cleanStr_spec (by decide) named, platform_of_valid validPlatform,
      category_of_valid validCategory⟩, ?_⟩
    intro format cleaned
    obtain ⟨filled, short⟩ := cleanStr_spec (by decide) cleaned
    exact ⟨filled.length, short⟩

/-- A dictionary that is not clean raises. -/
theorem parseOneItem_of_unclean {payload : List (String × JsonValue ν)} (eventDate : Date)
    (unclean : ¬Clean (.dict payload : JsonValue ν)) :
    ∃ failure, parseOneItem payload eventDate = .error failure := by
  simp only [Clean, Classical.not_imp, not_and_or, Bool.not_eq_true] at unclean
  obtain ⟨titled, unhashable⟩ := unclean
  obtain ⟨title, named⟩ := Option.isSome_iff_exists.mp titled
  simp only [parseOneItem, named]
  cases platform : oneOf validPlatforms defaultPlatform (JsonValue.get payload "platform") with
  | error failure => exact ⟨failure, rfl⟩
  | ok name =>
    obtain refused | refused := unhashable
    · obtain ⟨text, raises⟩ := oneOf_of_unhashable validPlatforms defaultPlatform refused
      rw [platform] at raises
      cases raises
    · obtain ⟨text, raises⟩ := oneOf_of_unhashable validCategories defaultCategory refused
      exact ⟨.typeError text, by rw [raises]; rfl⟩

/-! ## Days of a range -/

/-- The middle of a range is in the range. -/
theorem middle_in_range (ordered : startDate ≤ endDate) :
    ∃ middle, dayAfter startDate (endDate.daysSince startDate / 2) = .ok middle ∧
      startDate ≤ middle ∧ middle ≤ endDate := by
  have order := Date.toordinal_le.mpr ordered
  have half : endDate.daysSince startDate / 2 =
      ((endDate.toordinal - startDate.toordinal) / 2 : Nat) := by
    unfold Date.daysSince
    omega
  have within : startDate.toordinal + (endDate.toordinal - startDate.toordinal) / 2 ≤
      endDate.toordinal := by omega
  obtain ⟨middle, reached, _, after, before⟩ := Date.plusDays_before within
  refine ⟨middle, ?_, after, before⟩
  rw [dayAfter, half, reached]

/-- A day the model named is clamped into the range. -/
theorem parseAndClampDate_in_range (ordered : startDate ≤ endDate) (raw : JsonValue ν) :
    ∃ date, parseAndClampDate fromisoformat raw startDate endDate = .ok date ∧
      startDate ≤ date ∧ date ≤ endDate := by
  have middle := middle_in_range ordered
  cases raw with
  | str text =>
    simp only [parseAndClampDate]
    cases fromisoformat text with
    | none => exact middle
    | some parsed =>
      dsimp only
      split
      · next inside => exact ⟨parsed, rfl, inside⟩
      · exact middle
  | _ => exact middle

/-! ## The model's list -/

/-- A clean entry is read as no item or as one that can be stored. -/
theorem parseEntry_of_clean (ordered : startDate ≤ endDate) {entry : JsonValue ν}
    (clean : Clean entry) :
    ∃ parsed, parseEntry fromisoformat startDate endDate entry = .ok parsed ∧
      ∀ item ∈ parsed, Storable startDate endDate item := by
  cases entry with
  | dict payload =>
    obtain ⟨date, isDate, inRange⟩ :=
      parseAndClampDate_in_range fromisoformat ordered (JsonValue.get payload "event_date")
    obtain ⟨parsed, isParsed, storable⟩ := parseOneItem_of_clean inRange clean
    exact ⟨parsed, by rw [parseEntry, isDate]; exact isParsed, storable⟩
  | _ => exact ⟨none, rfl, by simp⟩

/-- An entry that is not clean raises. -/
theorem parseEntry_of_unclean (ordered : startDate ≤ endDate) {entry : JsonValue ν}
    (unclean : ¬Clean entry) :
    ∃ failure, parseEntry fromisoformat startDate endDate entry = .error failure := by
  cases entry with
  | dict payload =>
    obtain ⟨date, isDate, _⟩ :=
      parseAndClampDate_in_range fromisoformat ordered (JsonValue.get payload "event_date")
    obtain ⟨failure, raises⟩ := parseOneItem_of_unclean date unclean
    exact ⟨failure, by rw [parseEntry, isDate]; exact raises⟩
  | _ => exact absurd trivial unclean

/-- A list whose first 40 entries are clean is read, and at most 40 items come of it. -/
theorem parseItems_of_clean (ordered : startDate ≤ endDate) {raws : List (JsonValue ν)}
    (clean : ∀ entry ∈ raws.take maxRangeItems, Clean entry) :
    ∃ items, parseItems fromisoformat raws startDate endDate = .ok items ∧ items.length ≤ 40 ∧
      ∀ item ∈ items, Storable startDate endDate item := by
  obtain ⟨parsed, isParsed, storable, sameLength⟩ :=
    Traverse.mapM_of_each (parseEntry fromisoformat startDate endDate)
      (fun parsed => ∀ item ∈ parsed, Storable startDate endDate item) (fun _ => ()) (fun _ => ())
      fun entry (inside : entry ∈ raws.take maxRangeItems) => by
        obtain ⟨parsed, isParsed, storable⟩ :=
          parseEntry_of_clean fromisoformat ordered (clean entry inside)
        exact ⟨parsed, isParsed, storable, rfl⟩
  refine ⟨parsed.filterMap id, by rw [parseItems, isParsed]; rfl, ?_, ?_⟩
  · have count := congrArg List.length sameLength
    simp only [List.length_map, List.length_take, maxRangeItems] at count
    have fewer := List.length_filterMap_le id parsed
    omega
  · intro item inside
    obtain ⟨entry, member, isItem⟩ := List.mem_filterMap.mp inside
    exact storable entry member item isItem

/-! ## The placeholder plan -/

/-- The step between placeholder items is five days or one. -/
theorem step_cases {spanDays step : Int} (chosen : step =
    if 10 < spanDays then 5 else max 1 (if spanDays / 6 = 0 then 1 else spanDays / 6)) :
    step = 5 ∨ step = 1 := by
  split at chosen
  · exact Or.inl chosen
  · refine Or.inr ?_
    split at chosen <;> omega

/-- The offsets of the placeholder items: different days of the range, the first day first. -/
theorem fallbackOffsets_spec {spanDays : Int} (some_day : 1 ≤ spanDays) :
    (fallbackOffsets spanDays).Nodup ∧ (fallbackOffsets spanDays).length ≤ 6 ∧
      (fallbackOffsets spanDays).head? = some 0 ∧
      ∀ offset ∈ fallbackOffsets spanDays, (offset : Int) < spanDays := by
  unfold fallbackOffsets
  generalize chosen : (if 10 < spanDays then 5 else
    max 1 (if spanDays / 6 = 0 then 1 else spanDays / 6)) = step
  have choose := step_cases chosen.symm
  have positive : 0 < ((spanDays + step - 1) / step).toNat := by
    obtain rfl | rfl := choose <;> omega
  have first : (rangeBy spanDays step).head? = some 0 := by
    obtain ⟨more, count⟩ := Nat.exists_eq_succ_of_ne_zero (Nat.ne_of_gt positive)
    rw [rangeBy, count, List.range'_succ, List.head?_cons]
  have filled : (rangeBy spanDays step).take 6 ≠ [] := by
    intro bare
    have shown : ((rangeBy spanDays step).take 6).head? = some 0 := by
      rw [List.head?_take, if_neg (by decide), first]
    rw [bare] at shown
    cases shown
  dsimp only
  rw [if_neg filled]
  refine ⟨?_, List.length_take_le _ _, ?_, ?_⟩
  · refine List.Nodup.sublist (List.take_sublist _ _) (List.nodup_range' _ ?_)
    obtain rfl | rfl := choose <;> decide
  · rw [List.head?_take, if_neg (by decide), first]
  · intro offset inside
    obtain ⟨i, below, rfl⟩ := List.mem_range'.mp (List.mem_of_mem_take inside)
    obtain rfl | rfl := choose
    · have five : Int.toNat 5 = 5 := rfl
      rw [five]
      omega
    · have one : Int.toNat 1 = 1 := rfl
      rw [one]
      omega

/-- The title of a placeholder item fits. -/
theorem placeholder_title {i : Nat} (few : i < 6) (eventDate : Date) :
    NonBlank (placeholder i eventDate).title ∧ (placeholder i eventDate).title.length ≤ 200 := by
  constructor
  · exact ⟨'C', by simp [placeholder, toString], by decide⟩
  · have digit : (toString (i + 1)).length = 1 := by
      interval_cases i <;> rfl
    simp only [placeholder, String.length_append, digit]
    decide

/-- The placeholder plan of a range is usable, and its items are spread over different days. -/
theorem fallbackRange_spec (ordered : startDate ≤ endDate) :
    ∃ items, fallbackRange startDate endDate = .ok items ∧ Usable startDate endDate items ∧
      Spread startDate items ∧ ∀ item ∈ items, Storable startDate endDate item := by
  have order := Date.toordinal_le.mpr ordered
  have some_day : 1 ≤ endDate.daysSince startDate + 1 := by
    unfold Date.daysSince
    omega
  obtain ⟨apart, few, first, within⟩ := fallbackOffsets_spec some_day
  unfold fallbackRange
  generalize fallbackOffsets (endDate.daysSince startDate + 1) = offsets at *
  obtain ⟨items, isItems, storable, days⟩ :=
    Traverse.mapM_of_each (fun entry : Nat × Nat => do
        let eventDate ← dayAfter startDate entry.1
        return placeholder entry.2 eventDate) (Storable startDate endDate)
      (fun item => item.eventDate.toordinal) (fun entry => startDate.toordinal + entry.1)
      fun entry (inside : entry ∈ offsets.zipIdx) => by
        obtain ⟨offset, i⟩ := entry
        obtain ⟨place, isOffset⟩ := List.mem_zipIdx' inside
        have member : offset ∈ offsets := isOffset ▸ List.getElem_mem place
        have inRange := within offset member
        unfold Date.daysSince at inRange
        have notPassed : startDate.toordinal + offset ≤ endDate.toordinal := by omega
        obtain ⟨date, reached, number, after, before⟩ := Date.plusDays_before notPassed
        refine ⟨placeholder i date, ?_, ?_, number⟩
        · simp only [dayAfter, reached]
          rfl
        · refine ⟨⟨⟨after, before⟩, placeholder_title (by omega) date, ⟨.instagram, rfl⟩,
            ⟨.content, rfl⟩⟩, ?_⟩
          rintro _ ⟨⟩
          decide
  have offsetDays : items.map (fun item => item.eventDate.toordinal) =
      offsets.map (fun offset => startDate.toordinal + offset) := by
    rw [days]
    conv_rhs => rw [← List.zipIdx_map_fst 0 offsets]
    rw [List.map_map]
    rfl
  have count : items.length = offsets.length := by
    simpa using congrArg List.length offsetDays
  have filled : offsets ≠ [] := by
    rintro rfl
    cases first
  refine ⟨items, isItems, ⟨⟨?_, by omega⟩, fun item inside => (storable item inside).toUsableItem⟩,
    ⟨by omega, ?_, ?_⟩, storable⟩
  · rw [count]
    exact List.length_pos_iff.mpr filled
  · refine List.Nodup.of_map Date.toordinal ?_
    rw [List.map_map]
    exact offsetDays ▸ apart.map fun _ _ same => Nat.add_left_cancel same
  · have front := congrArg List.head? offsetDays
    rw [List.head?_map, List.head?_map, first] at front
    obtain ⟨item, isFirst, number⟩ := Option.map_eq_some_iff.mp front
    rw [isFirst, Option.map_some]
    exact congrArg some (Date.toordinal_injective number)

/-! ## The whole answer -/

/-- The text between the outermost braces decides what the reader returns. -/
theorem parseJsonObject_of_readable {loads : String → Except LoadsError (JsonValue ν)}
    {raw : String} (readable : Readable loads raw) :
    ∃ payload, parseJsonObject loads raw = .ok payload ∧
      ∀ raws, rawItems payload = some raws → ∀ entry ∈ raws.take maxRangeItems, Clean entry := by
  unfold parseJsonObject
  cases cut : outermostBraces raw with
  | none => exact ⟨none, rfl, fun _ absent => by cases absent⟩
  | some body =>
    obtain ⟨expected, clean⟩ := readable body cut
    dsimp only
    cases loaded : loads body with
    | error error =>
      obtain rfl := expected error loaded
      exact ⟨none, rfl, fun _ absent => by cases absent⟩
    | ok value =>
      cases value with
      | dict payload =>
        refine ⟨some payload, rfl, fun raws listed => clean payload raws loaded ?_⟩
        simp only [rawItems] at listed
        split at listed
        · next items isList => exact isList.trans (congrArg _ (Option.some.inj listed))
        · cases listed
      | _ => exact ⟨none, rfl, fun _ absent => by cases absent⟩

/-- Without a readable answer the agent raises. -/
theorem generateRange_of_unreadable (ordered : startDate ≤ endDate)
    {loads : String → Except LoadsError (JsonValue ν)} {raw : String}
    (unreadable : ¬Readable loads raw) :
    ∃ failure, generateRange fromisoformat loads true (some raw) startDate endDate =
      .error failure := by
  simp only [Readable, not_forall, not_and_or] at unreadable
  obtain ⟨body, cut, trouble⟩ := unreadable
  simp only [generateRange, parseJsonObject, cut, Bool.not_true, Bool.false_eq_true, ↓reduceIte]
  obtain ⟨error, loaded, unexpected⟩ | ⟨payload, items, loaded, isList, entry, inside, unclean⟩ :=
    trouble
  · cases error with
    | jsonDecodeError => exact absurd rfl unexpected
    | _ => exact ⟨.loads, by rw [loaded]⟩
  · obtain ⟨failure, raises⟩ :=
      Traverse.mapM_of_failing inside (parseEntry_of_unclean fromisoformat ordered unclean)
    simp only [loaded, rawItems, isList, parseItems, raises]
    exact ⟨failure, rfl⟩

/-- With a readable answer, or with none, the agent drafts items that can be stored. -/
theorem generateRange_of_readable (ordered : startDate ≤ endDate)
    (loads : String → Except LoadsError (JsonValue ν)) (isConfigured : Bool)
    (answer : Option String) (readable : isConfigured = true → ∀ raw ∈ answer, Readable loads raw) :
    ∃ items, generateRange fromisoformat loads isConfigured answer startDate endDate = .ok items ∧
      Usable startDate endDate items ∧ ∀ item ∈ items, Storable startDate endDate item := by
  have fallback : ∃ items, fallbackRange startDate endDate = .ok items ∧
      Usable startDate endDate items ∧ ∀ item ∈ items, Storable startDate endDate item := by
    obtain ⟨items, isItems, usable, _, storable⟩ := fallbackRange_spec ordered
    exact ⟨items, isItems, usable, storable⟩
  unfold generateRange
  cases isConfigured with
  | false => exact fallback
  | true =>
    cases answer with
    | none => exact fallback
    | some raw =>
      obtain ⟨payload, isPayload, clean⟩ := parseJsonObject_of_readable (readable rfl raw rfl)
      simp only [isPayload, Bool.not_true, Bool.false_eq_true, ↓reduceIte]
      cases listed : rawItems payload with
      | none => exact fallback
      | some raws =>
        obtain ⟨items, isItems, most, storable⟩ :=
          parseItems_of_clean fromisoformat ordered (clean raws listed)
        simp only [isItems]
        change ∃ plan, (if items = [] then fallbackRange startDate endDate else .ok items) =
          .ok plan ∧ _
        by_cases bare : items = []
        · rw [if_pos bare]
          exact fallback
        · refine ⟨items, if_neg bare, ⟨⟨List.length_pos_iff.mpr bare, most⟩, ?_⟩, storable⟩
          exact fun item inside => (storable item inside).toUsableItem

/-- What the service makes of an item: `SocialPlatform(item.platform)` and
`TaskCategory(item.category)` are members, and the texts fit their columns. -/
theorem Storable.draft {item : ProposedItem} (storable : Storable startDate endDate item) :
    ∃ draft : MarketingOS.ProposedItem, draft.title.val = item.title ∧
      draft.eventDate = item.eventDate ∧
      Enumeration.ofValue item.platform = some draft.platform ∧
      Enumeration.ofValue item.category = some draft.category ∧
      draft.contentFormat.map Subtype.val = item.contentFormat ∧
      draft.caption = item.caption ∧ draft.hashtags = item.hashtags := by
  obtain ⟨platform, isPlatform⟩ := storable.platform
  obtain ⟨category, isCategory⟩ := storable.category
  have format : ∃ format : Option (BoundedText 1 30),
      format.map Subtype.val = item.contentFormat := by
    cases given : item.contentFormat with
    | none => exact ⟨none, rfl⟩
    | some format => exact ⟨some ⟨format, storable.format format given⟩, rfl⟩
  obtain ⟨format, isFormat⟩ := format
  refine ⟨⟨⟨item.title, storable.title.1.length, storable.title.2⟩, item.eventDate, platform,
    category, format, item.caption, item.hashtags⟩, rfl, rfl, ?_, ?_, isFormat, rfl, rfl⟩
  · rw [← isPlatform, Enumeration.ofValue_value]
  · rw [← isCategory, Enumeration.ofValue_value]

/-- A plan is generated for every answer of the model that can be read, and only for those: it has
1 to 40 items the calendar can take. The placeholder plan has at most six, on different days from
the first day on. -/
theorem plan_usable_iff (loads : String → Except LoadsError (JsonValue ν)) (isConfigured : Bool)
    (answer : Option String) (startDate endDate : Date) (ordered : startDate ≤ endDate) :
    ((∃ items, generateRange fromisoformat loads isConfigured answer startDate endDate =
        .ok items ∧ Usable startDate endDate items) ∧
      ∃ items, fallbackRange startDate endDate = .ok items ∧ Usable startDate endDate items ∧
        Spread startDate items) ↔
      (isConfigured = true → ∀ raw ∈ answer, Readable loads raw) := by
  constructor
  · rintro ⟨⟨items, generated, _⟩, _⟩ rfl raw given
    by_contra unreadable
    obtain ⟨failure, raises⟩ := generateRange_of_unreadable fromisoformat ordered unreadable
    obtain rfl : answer = some raw := given
    rw [generated] at raises
    cases raises
  · intro readable
    obtain ⟨items, generated, usable, _⟩ := generateRange_of_readable fromisoformat ordered loads
      isConfigured answer readable
    obtain ⟨placeholders, isFallback, usableToo, spread, _⟩ := fallbackRange_spec ordered
    exact ⟨⟨items, generated, usable⟩, placeholders, isFallback, usableToo, spread⟩

/-- An answer with one item, whose platform is given. -/
def sampleAnswer (platform : JsonValue Unit) : JsonValue Unit :=
  .dict [("items", .list [.dict [("title", .str "Launch"), ("platform", platform)]])]

/-- Its text. -/
def sampleText (platform : String) : String :=
  "\x7b\"items\": [\x7b\"title\": \"Launch\", \"platform\": " ++ platform ++ "\x7d]\x7d"

/-- 1 May 2026. -/
def firstOfMay : Date := ⟨2026, 5, 1, by decide⟩

/-- 31 May 2026. -/
def lastOfMay : Date := ⟨2026, 5, 31, by decide⟩

/-- A plan for May from an answer whose item names a platform. -/
theorem sample_plan_usable :
    (∃ items, generateRange Date.parse (fun _ => .ok (sampleAnswer (.str "youtube"))) true
        (some (sampleText "\"youtube\"")) firstOfMay lastOfMay = .ok items ∧
        Usable firstOfMay lastOfMay items) ∧
      ∃ items, fallbackRange firstOfMay lastOfMay = .ok items ∧
        Usable firstOfMay lastOfMay items ∧ Spread firstOfMay items := by
  refine (plan_usable_iff Date.parse _ true _ firstOfMay lastOfMay (by decide)).mpr ?_
  rintro - raw - body -
  refine ⟨by simp, ?_⟩
  rintro payload items ⟨⟩ ⟨⟩ entry inside
  obtain rfl := List.mem_singleton.mp inside
  exact fun _ => ⟨rfl, rfl⟩

/-- A model that answers a list of platforms makes the agent raise. -/
theorem platform_list_raises :
    firstOfMay ≤ lastOfMay ∧
      generateRange Date.parse (fun _ => .ok (sampleAnswer (.list [.str "youtube"]))) true
        (some (sampleText "[\"youtube\"]")) firstOfMay lastOfMay =
          .error (.typeError "unhashable type: 'list'") := by
  refine ⟨by decide, ?_⟩
  have cut : (outermostBraces (sampleText "[\"youtube\"]")).isSome := by
    unfold outermostBraces sampleText
    rw [String.toList_append, String.toList_append, String.toList_ofList, String.toList_ofList,
      String.toList_ofList]
    rfl
  obtain ⟨body, isBody⟩ := Option.isSome_iff_exists.mp cut
  simp only [generateRange, parseJsonObject, isBody]
  rfl

end MarketingOS.PlanGenerationAgent
