import MarketingOS.Verif.Approval

/-!
# What a diff tells

The diff of a staged update against the values stored before and after it. A field is told when it
is in the diff exactly when its value changes, and the diff then says both values in full.
-/
namespace MarketingOS

/-- A field of a row: the value tables hold, how a diff writes a value, and which values are all
said by what is written. -/
structure Field where
  name : String
  Value : Type
  /-- The value tables hold; nothing when there is no row. -/
  stored : Tables → Option Value
  /-- A value in a diff. -/
  write : Value → Json
  /-- Whether what is written says all of a value. -/
  Plain : Value → Prop
  /-- Values that are said in full are told apart. -/
  apart : ∀ {old new}, Plain old → Plain new → write old = write new → old = new

/-- Whether a diff tells what happens to a field between two states. -/
def Field.Told (field : Field) (before after : Tables) (changes : Option Changes) : Prop :=
  ((∃ change, (field.name, change) ∈ changes.getD []) ↔
    field.stored before ≠ field.stored after) ∧
  ∀ change, (field.name, change) ∈ changes.getD [] →
    (∃ old, field.stored before = some old ∧ field.Plain old ∧ change.before = field.write old) ∧
    ∃ new, field.stored after = some new ∧ field.Plain new ∧ change.after = field.write new

/-- A field whose every value is said in full. -/
def Field.scalar {β : Type} (name : String) (stored : Tables → Option β) (write : β → Json)
    (injective : Function.Injective write) : Field where
  name := name
  Value := β
  stored := stored
  write := write
  Plain _ := True
  apart _ _ same := injective same

section Told

variable {field : Field} {before after : Tables} {old new : field.Value}
  {was is : List (String × Json)}

/-- A tracked field is told when it keeps its value, or when both values are said in full. -/
theorem Field.told_iff (stored : field.stored before = some old)
    (stored' : field.stored after = some new)
    (written : Json.fieldValue was field.name = field.write old)
    (written' : Json.fieldValue is field.name = field.write new) :
    field.Told before after (fieldChanges was is) ↔
      old = new ∨ (field.Plain old ∧ field.Plain new) := by
  unfold Field.Told
  simp only [entry_fieldChanges_iff, written, written', stored, stored', ne_eq, Option.some.injEq]
  constructor
  · rintro ⟨shown, told⟩
    by_cases same : old = new
    · exact .inl same
    · obtain ⟨change, differs, rfl⟩ := shown.mpr same
      obtain ⟨⟨_, rfl, plain, -⟩, _, rfl, plain', -⟩ := told _ ⟨differs, rfl⟩
      exact .inr ⟨plain, plain'⟩
  · rintro (rfl | ⟨plain, plain'⟩)
    · simp
    · refine ⟨⟨?_, fun differs => ?_⟩, ?_⟩
      · rintro ⟨change, differs, -⟩ rfl
        exact differs rfl
      · exact ⟨_, fun same => differs (field.apart plain plain' same), rfl⟩
      · rintro change ⟨-, rfl⟩
        exact ⟨⟨old, rfl, plain, rfl⟩, new, rfl, plain', rfl⟩

/-- A field whose old value is written as it is stored is told only when the new one is. -/
theorem Field.written_of_told (stored : field.stored before = some old)
    (stored' : field.stored after = some new)
    (written : Json.fieldValue was field.name = field.write old)
    (told : field.Told before after (fieldChanges was is)) :
    Json.fieldValue is field.name = field.write new := by
  unfold Field.Told at told
  simp only [entry_fieldChanges_iff, stored, stored', ne_eq, Option.some.injEq] at told
  obtain ⟨shown, told⟩ := told
  by_cases differs : Json.fieldValue was field.name = Json.fieldValue is field.name
  · have same : old = new := by
      by_contra apart
      obtain ⟨change, shows, -⟩ := shown.mpr apart
      exact shows differs
    rw [← same, ← written, differs]
  · obtain ⟨-, _, rfl, -, told⟩ := told _ ⟨differs, rfl⟩
    exact told

/-- A field that is not tracked is told when it keeps its value. -/
theorem Field.told_untracked (stored : field.stored before = some old)
    (stored' : field.stored after = some new)
    (untracked : Json.fieldValue was field.name = Json.fieldValue is field.name) :
    field.Told before after (fieldChanges was is) ↔ old = new := by
  unfold Field.Told
  simp only [entry_fieldChanges_iff, untracked, stored, stored', ne_eq, Option.some.injEq]
  simp

end Told

/-! ## Plan tasks -/

/-- An optional value as its printed text. -/
def Json.ofPrinted {β : Type} (print : β → String) (value : Option β) : Json :=
  .ofText (value.map print)

/-- Values printed differently are written differently. -/
theorem Json.ofPrinted_injective {β : Type} {print : β → String}
    (injective : Function.Injective print) : Function.Injective (Json.ofPrinted print) :=
  fun _ _ same => Option.map_injective injective (Json.ofText_injective same)

/-- Different days are printed differently. -/
theorem Date.print_injective : Function.Injective Date.print := by
  intro left right same
  have read := congrArg Date.parse same
  rw [Date.parse_print, Date.parse_print] at read
  exact Option.some.inj read

/-- Different times are printed differently. -/
theorem Time.print_injective : Function.Injective Time.print := by
  intro left right same
  have read := congrArg Time.parse same
  rw [Time.parse_print, Time.parse_print] at read
  exact Option.some.inj read

/-- A truth value in a diff. -/
def Json.ofFlag (value : Option Bool) : Json := (value.map Json.bool).getD .null

/-- Different truth values are written differently. -/
theorem Json.ofFlag_injective : Function.Injective Json.ofFlag := by
  intro left right same
  rcases left with _ | left <;> rcases right with _ | right <;> simp_all [Json.ofFlag]

/-- A column of a task. -/
def PlanTask.field {β : Type} (clientId taskId : Uuid) (name : String) (column : PlanTask → β)
    (write : β → Json) (injective : Function.Injective write) : Field :=
  .scalar name (fun t => (t.getTask clientId taskId).map column) write injective

/-- The fields of a task that an update can change. -/
def PlanTask.fields (clientId taskId : Uuid) : List Field :=
  [PlanTask.field clientId taskId "title" PlanTask.title .ofText Json.ofText_injective,
    PlanTask.field clientId taskId "description" PlanTask.description .ofText
      Json.ofText_injective,
    PlanTask.field clientId taskId "requirements" PlanTask.requirements .ofText
      Json.ofText_injective,
    PlanTask.field clientId taskId "category" PlanTask.category .ofMember
      Json.ofMember_injective,
    PlanTask.field clientId taskId "status" PlanTask.status .ofMember Json.ofMember_injective,
    PlanTask.field clientId taskId "priority" PlanTask.priority .ofMember
      Json.ofMember_injective,
    PlanTask.field clientId taskId "assignee_id" PlanTask.assigneeId (.ofPrinted Uuid.print)
      (Json.ofPrinted_injective Uuid.print_injective),
    PlanTask.field clientId taskId "start_date" PlanTask.startDate (.ofPrinted Date.print)
      (Json.ofPrinted_injective Date.print_injective),
    PlanTask.field clientId taskId "due_date" PlanTask.dueDate (.ofPrinted Date.print)
      (Json.ofPrinted_injective Date.print_injective),
    PlanTask.field clientId taskId "start_time" PlanTask.startTime (.ofPrinted Time.print)
      (Json.ofPrinted_injective Time.print_injective),
    PlanTask.field clientId taskId "end_time" PlanTask.endTime (.ofPrinted Time.print)
      (Json.ofPrinted_injective Time.print_injective),
    PlanTask.field clientId taskId "archived" PlanTask.archived .ofFlag Json.ofFlag_injective]

/-- A field of a dict from which some were dropped. -/
theorem Json.fieldValue_filter (values : List (String × Json)) (keep : String → Bool)
    (name : String) :
    Json.fieldValue (values.filter fun entry => keep entry.1) name =
      if keep name then Json.fieldValue values name else .null := by
  unfold Json.fieldValue
  induction values with
  | nil => simp
  | cons entry values ih =>
    obtain ⟨key, value⟩ := entry
    by_cases same : name = key
    · subst same
      by_cases kept : keep name = true
      · simp [kept]
      · simpa [List.filter_cons, kept] using ih
    · have other : (name == key) = false := by simpa using same
      by_cases kept : keep key = true
      · simpa [List.filter_cons, kept, List.lookup_cons, other] using ih
      · simpa [List.filter_cons, kept, List.lookup_cons, other] using ih

/-- The keys of a dict are those a lookup finds. -/
theorem Json.contains_keys (values : List (String × Json)) (name : String) :
    (values.map Prod.fst).contains name = (values.lookup name).isSome := by
  induction values with
  | nil => rfl
  | cons entry values ih =>
    rw [List.map_cons, List.contains_cons, ih, List.lookup_cons]
    cases name == entry.1 <;> rfl

/-- A field was sent when its entry holds a document. -/
theorem PlanTaskUpdate.sent_contains (data : PlanTaskUpdate) (name : String) :
    data.sent.contains name = (data.entries.lookup name).join.isSome := by
  have distinct : (data.entries.map Prod.fst).Nodup := by
    rw [show data.entries.map Prod.fst = PlanTaskUpdate.names from rfl]
    decide
  rw [PlanTaskUpdate.sent, Json.contains_keys, Json.lookup_sparse _ distinct]

/-- A flush keeps the columns of a task other than its version. -/
theorem PlanTask.column_touch {β : Type} {column : PlanTask → β}
    (steady : ∀ task now, column { task with updatedAt := now } = column task) (now : Timestamp)
    (before after : PlanTask) : column (PlanTask.touch now before after) = column after := by
  unfold PlanTask.touch
  split
  · next same => rw [same]
  · exact steady after now

/-- The row an update leaves of a task. -/
def PlanTaskUpdate.leaves (tick : Tick) (data : PlanTaskUpdate) (task : PlanTask) : PlanTask :=
  (PlanTask.touch tick.now task (data.apply task)).stored

section Task

variable {t t' : Tables} {clientId taskId : Uuid} {tick : Tick} {task : PlanTask}
  {data : PlanTaskUpdate}

/-- The diff of an update of a task. -/
def PlanTaskUpdate.diff (data : PlanTaskUpdate) (task : PlanTask) : Option Changes :=
  fieldChanges (task.auditValues.filter fun entry => data.sent.contains entry.1)
    ((data.apply task).auditValues.filter fun entry => data.sent.contains entry.1)

/-- A field that was not sent is not in the update. -/
theorem PlanTaskUpdate.unsent_iff {γ : Type} {name : String} {patch : Patch γ}
    {codec : JsonCodec γ} (entry : data.entries.lookup name = some (patch.encode codec)) :
    data.sent.contains name = true ↔ patch ≠ none := by
  rw [PlanTaskUpdate.sent_contains, entry]
  cases patch <;> simp [Patch.encode]

/-- What a task holds after an update is what the update wrote, as it is stored. -/
theorem PlanTaskUpdate.column_leaves {β : Type} {column : PlanTask → β}
    (steady : ∀ row now, column { row with updatedAt := now } = column row) :
    column (data.leaves tick task) = column (data.apply task).stored := by
  unfold PlanTaskUpdate.leaves PlanTask.touch
  split
  · next same => rw [same]
  · exact steady (data.apply task).stored tick.now

/-- A field of the diff of an update: its value in the row, or none when it was not sent. -/
theorem PlanTask.fieldValue_sent (values : List (String × Json)) (name : String) :
    Json.fieldValue (values.filter fun entry => data.sent.contains entry.1) name =
      if data.sent.contains name then Json.fieldValue values name else .null :=
  Json.fieldValue_filter values data.sent.contains name

/-- A column whose old value is written as it is stored is told exactly when the new one is too,
or was not sent. -/
theorem PlanTask.told_field {β γ : Type} (name : String) (column : PlanTask → β)
    (write : β → Json) {injective : Function.Injective write} (patch : Patch γ)
    {codec : JsonCodec γ} (found : t.getTask clientId taskId = some task)
    (found' : t'.getTask clientId taskId = some (data.leaves tick task))
    (steady : ∀ row now, column { row with updatedAt := now } = column row)
    (entry : data.entries.lookup name = some (patch.encode codec))
    (unsent : patch = none → column (data.apply task).stored = column task)
    (written : Json.fieldValue task.auditValues name = write (column task)) :
    (PlanTask.field clientId taskId name column write injective).Told t t' (data.diff task) ↔
      (patch ≠ none →
        Json.fieldValue (data.apply task).auditValues name =
          write (column (data.apply task).stored)) := by
  have stored : (t.getTask clientId taskId).map column = some (column task) := by
    rw [found, Option.map_some]
  have stored' : (t'.getTask clientId taskId).map column =
      some (column (data.apply task).stored) := by
    rw [found', Option.map_some, PlanTaskUpdate.column_leaves steady]
  by_cases absent : patch = none
  · have dropped : data.sent.contains name = false := by
      rw [← Bool.not_eq_true, PlanTaskUpdate.unsent_iff entry, not_not]
      exact absent
    have none (values : List (String × Json)) :
        Json.fieldValue (values.filter fun entry => data.sent.contains entry.1) name = .null := by
      rw [PlanTask.fieldValue_sent, dropped, if_neg Bool.false_ne_true]
    have told : (PlanTask.field clientId taskId name column write injective).Told t t'
        (data.diff task) :=
      (Field.told_untracked stored stored' ((none _).trans (none _).symm)).mpr (unsent absent).symm
    exact ⟨fun _ sent => absurd absent sent, fun _ => told⟩
  · have sent := (PlanTaskUpdate.unsent_iff entry).mpr absent
    have kept (values : List (String × Json)) :
        Json.fieldValue (values.filter fun entry => data.sent.contains entry.1) name =
          Json.fieldValue values name := by
      rw [PlanTask.fieldValue_sent, if_pos sent]
    constructor
    · intro told _
      rw [← kept]
      exact Field.written_of_told stored stored' ((kept _).trans written) told
    · intro written'
      exact (Field.told_iff stored stored' ((kept _).trans written)
        ((kept _).trans (written' absent))).mpr (.inr ⟨trivial, trivial⟩)

/-- The offset of a clock reading stands after the reading itself. -/
theorem Time.isoformat_eq_print_iff (time : Time) :
    time.isoformat = time.stored.print ↔ time.offset = none := by
  unfold Time.isoformat
  cases offset : time.offset with
  | none => simp
  | some minutes =>
    have longer (suffix : String) (some : suffix ≠ "") :
        time.stored.print ++ suffix ≠ time.stored.print := by
      intro same
      have lengths := congrArg String.length same
      rw [String.length_append] at lengths
      exact some (String.length_eq_zero_iff.mp (by omega))
    simp only [reduceCtorEq, iff_false]
    split
    · exact longer _ (by decide)
    · refine longer _ fun empty => ?_
      have chars := congrArg String.toList empty
      simp only [String.toList_ofList, Time.printOffset] at chars
      split at chars <;> simp at chars

/-- A clock time is written as it is stored exactly when it has no offset. -/
theorem Time.written_iff (value : Option Time) :
    Json.ofText (value.map Time.isoformat) = Json.ofPrinted Time.print (value.map Time.stored) ↔
      ∀ time ∈ value, time.offset = none := by
  cases value with
  | none => simp [Json.ofPrinted]
  | some time =>
    simp only [Json.ofPrinted, Option.map_some, Option.mem_def, Option.some.injEq, forall_eq']
    rw [← Time.isoformat_eq_print_iff]
    exact ⟨fun same => Json.str.inj same, congrArg Json.str⟩

/-- The clock times of a task that is as its row holds it have no offset. -/
theorem PlanTask.written_times (held : task.stored = task) :
    Json.ofText (task.startTime.map Time.isoformat) =
        Json.ofPrinted Time.print task.startTime ∧
      Json.ofText (task.endTime.map Time.isoformat) = Json.ofPrinted Time.print task.endTime := by
  have start : task.startTime.map Time.stored = task.startTime := congrArg PlanTask.startTime held
  have finish : task.endTime.map Time.stored = task.endTime := congrArg PlanTask.endTime held
  have plain {value : Option Time} (same : value.map Time.stored = value) :
      Json.ofText (value.map Time.isoformat) = Json.ofPrinted Time.print value := by
    conv_rhs => rw [← same]
    rw [Time.written_iff, ← same]
    rintro time inside
    obtain ⟨source, -, rfl⟩ := Option.map_eq_some_iff.mp inside
    rfl
  exact ⟨plain start, plain finish⟩

/-- The diff of an update tells every field of a task exactly when no time sent has an offset. -/
theorem PlanTask.told_iff (found : t.getTask clientId taskId = some task)
    (found' : t'.getTask clientId taskId = some (data.leaves tick task))
    (held : task.stored = task) :
    (∀ field ∈ PlanTask.fields clientId taskId, field.Told t t' (data.diff task)) ↔
      (∀ time ∈ data.startTime.read, time.offset = none) ∧
        ∀ time ∈ data.endTime.read, time.offset = none := by
  obtain ⟨startWritten, endWritten⟩ := PlanTask.written_times held
  have startHeld : task.startTime.map Time.stored = task.startTime :=
    congrArg PlanTask.startTime held
  have endHeld : task.endTime.map Time.stored = task.endTime := congrArg PlanTask.endTime held
  have text {n m : Nat} (stored : Option String) {patch : Patch (BoundedText n m)}
      (absent : patch = none) : Patch.onto patch.text stored = stored := by rw [absent]; rfl
  have value {β : Type} (stored : Option β) {patch : Patch β} (absent : patch = none) :
      patch.onto stored = stored := by rw [absent]; rfl
  simp only [PlanTask.fields, List.forall_mem_cons, List.not_mem_nil, false_implies, implies_true,
    and_true]
  have startSteady (absent : data.startTime = none) :
      (data.startTime.onto task.startTime).map Time.stored = task.startTime := by
    rw [value _ absent, startHeld]
  have endSteady (absent : data.endTime = none) :
      (data.endTime.onto task.endTime).map Time.stored = task.endTime := by
    rw [value _ absent, endHeld]
  have sent {patch : Patch Time} (stored : Option Time) :
      (patch ≠ none → Json.ofText ((patch.onto stored).map Time.isoformat) =
        Json.ofPrinted Time.print ((patch.onto stored).map Time.stored)) ↔
      ∀ time ∈ patch.read, time.offset = none := by
    cases patch with
    | none => simp [Patch.read]
    | some clock => simp [Time.written_iff, Patch.read, Patch.onto]
  constructor
  · rintro ⟨-, -, -, -, -, -, -, -, -, start, finish, -⟩
    have startTold := (PlanTask.told_field "start_time" PlanTask.startTime (.ofPrinted Time.print)
        data.startTime found found' (fun _ _ => rfl) rfl startSteady startWritten).mp start
    have endTold := (PlanTask.told_field "end_time" PlanTask.endTime (.ofPrinted Time.print)
        data.endTime found found' (fun _ _ => rfl) rfl endSteady endWritten).mp finish
    exact ⟨(sent task.startTime).mp startTold, (sent task.endTime).mp endTold⟩
  · rintro ⟨start, finish⟩
    refine ⟨?_, ?_, ?_, ?_, ?_, ?_, ?_, ?_, ?_, ?_, ?_, ?_⟩
    · exact (PlanTask.told_field "title" PlanTask.title .ofText
        data.title found found' (fun _ _ => rfl) rfl (text task.title) rfl).mpr fun _ => rfl
    · exact (PlanTask.told_field "description" PlanTask.description .ofText
        data.description found found' (fun _ _ => rfl) rfl (text task.description) rfl).mpr
          fun _ => rfl
    · exact (PlanTask.told_field "requirements" PlanTask.requirements .ofText
        data.requirements found found' (fun _ _ => rfl) rfl (text task.requirements) rfl).mpr
          fun _ => rfl
    · exact (PlanTask.told_field "category" PlanTask.category .ofMember
        data.category found found' (fun _ _ => rfl) rfl (value task.category) rfl).mpr fun _ => rfl
    · exact (PlanTask.told_field "status" PlanTask.status .ofMember
        data.status found found' (fun _ _ => rfl) rfl (value task.status) rfl).mpr fun _ => rfl
    · exact (PlanTask.told_field "priority" PlanTask.priority .ofMember
        data.priority found found' (fun _ _ => rfl) rfl (value task.priority) rfl).mpr fun _ => rfl
    · exact (PlanTask.told_field "assignee_id" PlanTask.assigneeId (.ofPrinted Uuid.print)
        data.assigneeId found found' (fun _ _ => rfl) rfl (value task.assigneeId) rfl).mpr
          fun _ => rfl
    · exact (PlanTask.told_field "start_date" PlanTask.startDate (.ofPrinted Date.print)
        data.startDate found found' (fun _ _ => rfl) rfl (value task.startDate) rfl).mpr
          fun _ => rfl
    · exact (PlanTask.told_field "due_date" PlanTask.dueDate (.ofPrinted Date.print)
        data.dueDate found found' (fun _ _ => rfl) rfl (value task.dueDate) rfl).mpr fun _ => rfl
    · exact (PlanTask.told_field "start_time" PlanTask.startTime (.ofPrinted Time.print)
        data.startTime found found' (fun _ _ => rfl) rfl startSteady startWritten).mpr
          ((sent task.startTime).mpr start)
    · exact (PlanTask.told_field "end_time" PlanTask.endTime (.ofPrinted Time.print)
        data.endTime found found' (fun _ _ => rfl) rfl endSteady endWritten).mpr
          ((sent task.endTime).mpr finish)
    · exact (PlanTask.told_field "archived" PlanTask.archived .ofFlag
        data.archived found found' (fun _ _ => rfl) rfl (value task.archived) rfl).mpr fun _ => rfl

end Task

/-! ## Clients, brands and users -/

/-- A column of a client. -/
def Client.field {β : Type} (clientId : Uuid) (name : String) (column : Client → β)
    (write : β → Json) (injective : Function.Injective write) : Field :=
  .scalar name (fun t => (t.getClient clientId).map column) write injective

/-- A text column of a client. -/
def Client.textField (clientId : Uuid) (name : String) (column : Client → Option String) : Field :=
  Client.field clientId name column .ofText Json.ofText_injective

/-- The fields of a client that an update can change. -/
def Client.fields (clientId : Uuid) : List Field :=
  [Client.textField clientId "name" Client.name,
    Client.textField clientId "business_type" Client.businessType,
    Client.textField clientId "industry" Client.industry,
    Client.textField clientId "website" Client.website,
    Client.textField clientId "location" Client.location,
    Client.textField clientId "language" Client.language,
    Client.textField clientId "timezone" Client.timezone,
    Client.textField clientId "markets" Client.markets,
    Client.field clientId "status" Client.status .ofMember Json.ofMember_injective]

/-- The colours some hex values stand for: without a label, in their order. -/
def plainColors (hexes : List String) : List BrandColor :=
  hexes.mapIdx fun position hex => ⟨hex, none, position⟩

/-- The fonts some families stand for: without a usage. -/
def plainFonts (families : List String) : List BrandFont :=
  families.map fun family => ⟨family, none⟩

/-- Texts are told apart in a list. -/
theorem Json.texts_injective :
    Function.Injective fun texts : List String => Json.arr (texts.map Json.str) := by
  intro left right same
  exact List.map_injective_iff.mpr (fun _ _ => Json.str.inj) (Json.arr.inj same)

/-- The colours of a client; their hex values say all of them when there is nothing else to say. -/
def Client.colorsField (clientId : Uuid) : Field where
  name := "colors"
  Value := List BrandColor
  stored t := (t.getClient clientId).map Client.brandColors
  write colors := .arr (colors.map fun color => .str color.hex)
  Plain colors := colors = plainColors (colors.map BrandColor.hex)
  apart {old new} plain plain' same := by
    have hexes : old.map BrandColor.hex = new.map BrandColor.hex := by
      apply Json.texts_injective
      simpa only [List.map_map, Function.comp_def] using same
    rw [plain, plain', hexes]

/-- The fonts of a client; their families say all of them when there is nothing else to say. -/
def Client.fontsField (clientId : Uuid) : Field where
  name := "fonts"
  Value := List BrandFont
  stored t := (t.getClient clientId).map Client.brandFonts
  write fonts := .arr (fonts.map fun font => .str font.family)
  Plain fonts := fonts = plainFonts (fonts.map BrandFont.family)
  apart {old new} plain plain' same := by
    have families : old.map BrandFont.family = new.map BrandFont.family := by
      apply Json.texts_injective
      simpa only [List.map_map, Function.comp_def] using same
    rw [plain, plain', families]

/-- The fields of a client that a brand update can change. -/
def Client.brandFields (clientId : Uuid) : List Field :=
  [Client.textField clientId "about_brand" Client.aboutBrand,
    Client.textField clientId "brand_voice" Client.brandVoice,
    Client.textField clientId "brand_extracted" Client.brandExtracted,
    Client.textField clientId "color_guidelines" Client.colorGuidelines,
    Client.textField clientId "logo_url" Client.logoUrl,
    Client.colorsField clientId, Client.fontsField clientId]

/-- A column of a user. -/
def User.field {β : Type} (userId : Uuid) (name : String) (column : User → β)
    (write : β → Json) (injective : Function.Injective write) : Field :=
  .scalar name (fun t => (t.getUser userId).map column) write injective

/-- Different roles are written differently. -/
theorem Json.ofRole_injective :
    Function.Injective fun role : UserRole => Json.ofMember (some role) :=
  fun _ _ same => Option.some.inj (Json.ofMember_injective same)

/-- The fields of a user that an update can change. -/
def User.fields (userId : Uuid) : List Field :=
  [User.field userId "name" User.name .str fun _ _ => Json.str.inj,
    User.field userId "role" User.role (fun role => .ofMember (some role)) Json.ofRole_injective,
    User.field userId "is_active" User.isActive .bool fun _ _ => Json.bool.inj]

section Client

variable {t t' : Tables} {clientId : Uuid} {now : Timestamp} {client after : Client}
  {was is : List (String × Json)}

/-- A flush keeps the columns of a client other than its version. -/
theorem Client.column_touch {β : Type} {column : Client → β}
    (steady : ∀ row now, column { row with updatedAt := now } = column row) :
    column (Client.touch now client after) = column after := by
  unfold Client.touch
  split
  · rfl
  · exact steady after now

/-- A tracked column of a client is told. -/
theorem Client.told_field {β : Type} (name : String) (column : Client → β) (write : β → Json)
    {injective : Function.Injective write} (found : t.getClient clientId = some client)
    (found' : t'.getClient clientId = some (Client.touch now client after))
    (steady : ∀ row now, column { row with updatedAt := now } = column row)
    (written : Json.fieldValue was name = write (column client))
    (written' : Json.fieldValue is name = write (column after)) :
    (Client.field clientId name column write injective).Told t t' (fieldChanges was is) := by
  have stored : (t.getClient clientId).map column = some (column client) := by
    rw [found, Option.map_some]
  have stored' : (t'.getClient clientId).map column = some (column after) := by
    rw [found', Option.map_some, Client.column_touch steady]
  exact (Field.told_iff stored stored' written written').mpr (.inr ⟨trivial, trivial⟩)

/-- The diff of an edit of a client tells every field. -/
theorem Client.told (found : t.getClient clientId = some client)
    (found' : t'.getClient clientId = some (Client.touch now client after)) :
    ∀ field ∈ Client.fields clientId,
      field.Told t t' (fieldChanges client.auditValues after.auditValues) := by
  have text (name : String) (column : Client → Option String)
      (steady : ∀ row now, column { row with updatedAt := now } = column row)
      (written : ∀ row : Client, Json.fieldValue row.auditValues name = .ofText (column row)) :
      (Client.textField clientId name column).Told t t'
        (fieldChanges client.auditValues after.auditValues) :=
    Client.told_field name column .ofText found found' steady (written _) (written _)
  simp only [Client.fields, List.forall_mem_cons, List.not_mem_nil, false_implies, implies_true,
    and_true]
  refine ⟨?_, ?_, ?_, ?_, ?_, ?_, ?_, ?_, ?_⟩
  · exact text "name" Client.name (fun _ _ => rfl) fun _ => rfl
  · exact text "business_type" Client.businessType (fun _ _ => rfl) fun _ => rfl
  · exact text "industry" Client.industry (fun _ _ => rfl) fun _ => rfl
  · exact text "website" Client.website (fun _ _ => rfl) fun _ => rfl
  · exact text "location" Client.location (fun _ _ => rfl) fun _ => rfl
  · exact text "language" Client.language (fun _ _ => rfl) fun _ => rfl
  · exact text "timezone" Client.timezone (fun _ _ => rfl) fun _ => rfl
  · exact text "markets" Client.markets (fun _ _ => rfl) fun _ => rfl
  · exact Client.told_field "status" Client.status .ofMember found found' (fun _ _ => rfl) rfl rfl

/-- The diff of a brand edit tells every field exactly when the extracted text keeps its value, and
each list is kept or has nothing to say but hex values or families. -/
theorem Client.told_brand_iff (found : t.getClient clientId = some client)
    (found' : t'.getClient clientId = some (Client.touch now client after)) :
    (∀ field ∈ Client.brandFields clientId, field.Told t t'
      (fieldChanges (OnboardingService.brandSnapshot client)
        (OnboardingService.brandSnapshot after))) ↔
      client.brandExtracted = after.brandExtracted ∧
      (client.brandColors = after.brandColors ∨
        (client.brandColors = plainColors (client.brandColors.map BrandColor.hex) ∧
          after.brandColors = plainColors (after.brandColors.map BrandColor.hex))) ∧
      (client.brandFonts = after.brandFonts ∨
        (client.brandFonts = plainFonts (client.brandFonts.map BrandFont.family) ∧
          after.brandFonts = plainFonts (after.brandFonts.map BrandFont.family))) := by
  have text (name : String) (column : Client → Option String)
      (steady : ∀ row now, column { row with updatedAt := now } = column row)
      (written : ∀ row : Client,
        Json.fieldValue (OnboardingService.brandSnapshot row) name = .ofText (column row)) :
      (Client.textField clientId name column).Told t t'
        (fieldChanges (OnboardingService.brandSnapshot client)
          (OnboardingService.brandSnapshot after)) :=
    Client.told_field name column .ofText found found' steady (written _) (written _)
  have aboutBrand := text "about_brand" Client.aboutBrand (fun _ _ => rfl) fun _ => rfl
  have brandVoice := text "brand_voice" Client.brandVoice (fun _ _ => rfl) fun _ => rfl
  have guidelines := text "color_guidelines" Client.colorGuidelines (fun _ _ => rfl) fun _ => rfl
  have logoUrl := text "logo_url" Client.logoUrl (fun _ _ => rfl) fun _ => rfl
  have stored {β : Type} (column : Client → β) :
      (t.getClient clientId).map column = some (column client) := by rw [found, Option.map_some]
  have stored' {β : Type} (column : Client → β)
      (steady : ∀ row now, column { row with updatedAt := now } = column row) :
      (t'.getClient clientId).map column = some (column after) := by
    rw [found', Option.map_some, Client.column_touch steady]
  have extracted : (Client.textField clientId "brand_extracted" Client.brandExtracted).Told t t'
      (fieldChanges (OnboardingService.brandSnapshot client)
        (OnboardingService.brandSnapshot after)) ↔ client.brandExtracted = after.brandExtracted :=
    Field.told_untracked (stored Client.brandExtracted)
      (stored' Client.brandExtracted fun _ _ => rfl) rfl
  have colors : (Client.colorsField clientId).Told t t'
      (fieldChanges (OnboardingService.brandSnapshot client)
        (OnboardingService.brandSnapshot after)) ↔ _ :=
    Field.told_iff (stored Client.brandColors) (stored' Client.brandColors fun _ _ => rfl) rfl rfl
  have fonts : (Client.fontsField clientId).Told t t'
      (fieldChanges (OnboardingService.brandSnapshot client)
        (OnboardingService.brandSnapshot after)) ↔ _ :=
    Field.told_iff (stored Client.brandFonts) (stored' Client.brandFonts fun _ _ => rfl) rfl rfl
  simp only [Client.brandFields, List.forall_mem_cons, List.not_mem_nil, false_implies,
    implies_true, and_true]
  rw [extracted, colors, fonts]
  exact ⟨fun ⟨_, _, extracted, _, _, lists⟩ => ⟨extracted, lists⟩,
    fun ⟨extracted, lists⟩ => ⟨aboutBrand, brandVoice, extracted, guidelines, logoUrl, lists⟩⟩

end Client

/-- The diff of an edit of a user tells every field. -/
theorem User.told {t t' : Tables} {userId : Uuid} {now : Timestamp} {user after : User}
    (found : t.getUser userId = some user)
    (found' : t'.getUser userId = some (User.touch now user after)) :
    ∀ field ∈ User.fields userId,
      field.Told t t' (fieldChanges user.auditValues after.auditValues) := by
  have told {β : Type} (name : String) (column : User → β) (write : β → Json)
      {injective : Function.Injective write}
      (steady : ∀ row now, column { row with updatedAt := now } = column row)
      (written : ∀ row : User, Json.fieldValue row.auditValues name = write (column row)) :
      (User.field userId name column write injective).Told t t'
        (fieldChanges user.auditValues after.auditValues) := by
    have stored : (t.getUser userId).map column = some (column user) := by
      rw [found, Option.map_some]
    have moved : column (User.touch now user after) = column after := by
      unfold User.touch
      split
      · next same => rw [same]
      · exact steady after now
    have stored' : (t'.getUser userId).map column = some (column after) := by
      rw [found', Option.map_some, moved]
    exact (Field.told_iff stored stored' (written _) (written _)).mpr (.inr ⟨trivial, trivial⟩)
  simp only [User.fields, List.forall_mem_cons, List.not_mem_nil, false_implies, implies_true,
    and_true]
  refine ⟨?_, ?_, ?_⟩
  · exact told "name" User.name .str (fun _ _ => rfl) fun _ => rfl
  · exact told "role" User.role (fun role => .ofMember (some role)) (fun _ _ => rfl) fun _ => rfl
  · exact told "is_active" User.isActive .bool (fun _ _ => rfl) fun _ => rfl

/-! ## Staged updates -/

/-- A staged update. -/
inductive Update (env : Environment) where
  | planTask (clientId taskId : Uuid) (data : PlanTaskUpdate)
  | client (clientId : Uuid) (data : ClientUpdate env)
  | brand (clientId : Uuid) (data : BrandUpdate)
  | user (userId : Uuid) (data : UserUpdate)

namespace Update

variable {env : Environment}

/-- What an update reports and leaves. -/
def apply (tick : Tick) (t : Tables) : Update env → Outcome (Option Changes × Tables)
  | .planTask clientId taskId data =>
    (PlanService.applyUpdateTask tick t clientId taskId data).map fun applied =>
      (applied.changes, applied.tables)
  | .client clientId data =>
    (ClientService.applyUpdateClient env tick t clientId data).map fun applied =>
      (applied.changes, applied.tables)
  | .brand clientId data =>
    match t.getClient clientId with
    | none => notFound "Client not found."
    | some row =>
      let applied := OnboardingService.applyUpdateBrand env tick t row data
      .ok (applied.changes, applied.tables)
  | .user userId data =>
    (UserService.applyUpdateUser tick t (some userId) data).map fun applied =>
      (applied.changes, applied.tables)

/-- The fields an update can change. -/
def fields : Update env → List Field
  | .planTask clientId taskId _ => PlanTask.fields clientId taskId
  | .client clientId _ => Client.fields clientId
  | .brand clientId _ => Client.brandFields clientId
  | .user userId _ => User.fields userId

/-- Whether the diff of an update tells every field the update can change, and no other. -/
structure Shown (update : Update env) (before after : Tables) (changes : Option Changes) :
    Prop where
  told : ∀ field ∈ update.fields, field.Told before after changes
  named : ∀ entry ∈ changes.getD [], entry.1 ∈ update.fields.map Field.name

/-- Whether a brand update sends nothing that its diff leaves out: no other extracted text, and of
colours and fonts those of the client, or such that hex values and families say all of both. -/
def BrandTellable (client : Client) (data : BrandUpdate) : Prop :=
  (∀ text, data.brandExtracted.text = some text → client.brandExtracted = text) ∧
  (∀ colors, data.colors.read = some colors →
    client.brandColors = BrandUpdate.colorRows colors.val ∨
      (client.brandColors = plainColors (client.brandColors.map BrandColor.hex) ∧
        ∀ color ∈ colors.val, color.label.text.read = none)) ∧
  ∀ fonts, data.fonts.read = some fonts →
    client.brandFonts = BrandUpdate.fontRows fonts.val ∨
      client.brandFonts = plainFonts (client.brandFonts.map BrandFont.family)

/-- Whether an update sends nothing that its diff leaves out or writes otherwise than it is stored:
no time with an offset, and of a brand only what its snapshot holds. -/
def Tellable (t : Tables) : Update env → Prop
  | .planTask _ _ data =>
    (∀ time ∈ data.startTime.read, time.offset = none) ∧
      ∀ time ∈ data.endTime.read, time.offset = none
  | .client _ _ => True
  | .brand clientId data => ∀ row, t.getClient clientId = some row → BrandTellable row data
  | .user _ _ => True

/-- Colours are replaced by rows that hex values say all of exactly when none has a label. -/
theorem colorRows_plain_iff (colors : List BrandColorIn) :
    BrandUpdate.colorRows colors =
        plainColors ((BrandUpdate.colorRows colors).map BrandColor.hex) ↔
      ∀ color ∈ colors, color.label.text.read = none := by
  have hexes : plainColors ((BrandUpdate.colorRows colors).map BrandColor.hex) =
      colors.mapIdx fun position color => ⟨color.hex.val, none, position⟩ := by
    apply List.ext_getElem <;> simp [plainColors, BrandUpdate.colorRows]
  rw [hexes, BrandUpdate.colorRows, List.mapIdx_eq_mapIdx_iff, List.forall_mem_iff_getElem]
  simp

/-- A brand update is told when what it leaves is. -/
theorem brandTellable_iff (client : Client) (data : BrandUpdate) :
    BrandTellable client data ↔
      client.brandExtracted = (data.apply client).brandExtracted ∧
      (client.brandColors = (data.apply client).brandColors ∨
        (client.brandColors = plainColors (client.brandColors.map BrandColor.hex) ∧
          (data.apply client).brandColors =
            plainColors ((data.apply client).brandColors.map BrandColor.hex))) ∧
      (client.brandFonts = (data.apply client).brandFonts ∨
        (client.brandFonts = plainFonts (client.brandFonts.map BrandFont.family) ∧
          (data.apply client).brandFonts =
            plainFonts ((data.apply client).brandFonts.map BrandFont.family))) := by
  have extracted : (∀ text, data.brandExtracted.text = some text → client.brandExtracted = text) ↔
      client.brandExtracted = (data.apply client).brandExtracted := by
    unfold BrandUpdate.apply
    cases data.brandExtracted.text <;> simp [Patch.onto]
  have colors : (∀ colors, data.colors.read = some colors →
      client.brandColors = BrandUpdate.colorRows colors.val ∨
        (client.brandColors = plainColors (client.brandColors.map BrandColor.hex) ∧
          ∀ color ∈ colors.val, color.label.text.read = none)) ↔
      client.brandColors = (data.apply client).brandColors ∨
        (client.brandColors = plainColors (client.brandColors.map BrandColor.hex) ∧
          (data.apply client).brandColors =
            plainColors ((data.apply client).brandColors.map BrandColor.hex)) := by
    unfold BrandUpdate.apply
    cases data.colors.read with
    | none => simp
    | some colors => simp [colorRows_plain_iff]
  have fonts : (∀ fonts, data.fonts.read = some fonts →
      client.brandFonts = BrandUpdate.fontRows fonts.val ∨
        client.brandFonts = plainFonts (client.brandFonts.map BrandFont.family)) ↔
      client.brandFonts = (data.apply client).brandFonts ∨
        (client.brandFonts = plainFonts (client.brandFonts.map BrandFont.family) ∧
          (data.apply client).brandFonts =
            plainFonts ((data.apply client).brandFonts.map BrandFont.family)) := by
    unfold BrandUpdate.apply
    cases data.fonts.read with
    | none => simp
    | some fonts => simp [BrandUpdate.fontRows, plainFonts, Function.comp_def]
  unfold BrandTellable
  rw [extracted, colors, fonts]

/-- A diff names fields of the two dicts only. -/
theorem named_of_keys {was is : List (String × Json)} {names : List String}
    (before : ∀ entry ∈ was, entry.1 ∈ names) (after : ∀ entry ∈ is, entry.1 ∈ names) :
    ∀ entry ∈ (fieldChanges was is).getD [], entry.1 ∈ names := by
  rintro ⟨name, change⟩ inside
  obtain ⟨differs, -⟩ := entry_fieldChanges_iff.mp inside
  have key {values : List (String × Json)} (known : ∀ entry ∈ values, entry.1 ∈ names)
      (present : Json.fieldValue values name ≠ .null) : name ∈ names := by
    obtain ⟨entry, member, rfl⟩ := List.mem_map.mp (Json.mem_keys_of_fieldValue present)
    exact known entry member
  by_cases absent : Json.fieldValue was name = .null
  · exact key after fun none => differs (absent.trans none.symm)
  · exact key before absent

/-- What a committed update of a task leaves of it. -/
theorem getTask_leaves {t : Tables} (tick : Tick) {clientId taskId : Uuid} {task : PlanTask}
    (data : PlanTaskUpdate) (found : t.getTask clientId taskId = some task) :
    (t.modifyTask taskId fun row => PlanTask.touch tick.now row (data.apply row)).stored.getTask
      clientId taskId = some (data.leaves tick task) := by
  have keeps (row : PlanTask) :
      (PlanTask.touch tick.now row (data.apply row)).scoped = row.scoped :=
    PlanTask.column_touch (fun _ _ => rfl) tick.now row (data.apply row)
  have own : task.id = taskId := congrArg Prod.fst (Table.get_key found)
  have read : (t.modifyTask taskId fun row =>
      PlanTask.touch tick.now row (data.apply row)).getTask clientId taskId =
      (t.getTask clientId taskId).map fun row =>
        if row.id = taskId then PlanTask.touch tick.now row (data.apply row) else row :=
    Table.get_modify_of_keeps keeps (taskId, clientId)
  rw [Tables.getTask_stored, read, found, Option.map_some, if_pos own]
  rfl

/-- What a committed edit of a client leaves of it. -/
theorem getClient_touched {t : Tables} (now : Timestamp) {clientId : Uuid} {row : Client}
    (change : Client → Client) (steady : ∀ row, (change row).id = row.id)
    (found : t.getClient clientId = some row) :
    (t.modifyClient clientId fun row => Client.touch now row (change row)).getClient clientId =
      some (Client.touch now row (change row)) := by
  have keeps (row : Client) (same : row.id = clientId) :
      (Client.touch now row (change row)).id = clientId :=
    (Client.column_touch fun _ _ => rfl).trans ((steady row).trans same)
  unfold Tables.getClient at found
  rw [Tables.getClient, Tables.modifyClient, Table.get_modify_same keeps, found, Option.map_some]

/-- What a committed edit of a user leaves of it. -/
theorem getUser_touched {t : Tables} (now : Timestamp) {userId : Uuid} {row : User}
    (data : UserUpdate) (found : t.getUser userId = some row) :
    (t.modifyUser userId fun row => User.touch now row (data.apply row)).getUser userId =
      some (User.touch now row (data.apply row)) := by
  have keeps (row : User) (same : row.id = userId) :
      (User.touch now row (data.apply row)).id = userId := by
    unfold User.touch
    split
    · exact same
    · exact same
  unfold Tables.getUser at found
  rw [Tables.getUser, Tables.modifyUser, Table.get_modify_same keeps, found, Option.map_some]

/-- The diff an update of a task reports. -/
theorem diff_of_applyUpdateTask {tick : Tick} {t : Tables} {clientId taskId : Uuid}
    {task : PlanTask} {data : PlanTaskUpdate} {applied : Applied PlanTask}
    (found : t.getTask clientId taskId = some task)
    (done : PlanService.applyUpdateTask tick t clientId taskId data = .ok applied) :
    applied.changes = data.diff task := by
  simp only [PlanService.applyUpdateTask, PlanService.getTask_ok.mpr found, Outcome.ok_bind,
    Outcome.bind_ok] at done
  obtain ⟨-, -, done⟩ := done
  rw [← Except.ok.inj done]
  rfl

/-- The diff an edit of a client reports. -/
theorem diff_of_applyUpdateClient {tick : Tick} {t : Tables} {clientId : Uuid} {row : Client}
    {data : ClientUpdate env} {applied : Applied Client} (found : t.getClient clientId = some row)
    (done : ClientService.applyUpdateClient env tick t clientId data = .ok applied) :
    applied.changes = fieldChanges row.auditValues (data.apply row).auditValues := by
  simp only [ClientService.applyUpdateClient, found] at done
  rw [← Except.ok.inj done]

/-- The diff an edit of a user reports. -/
theorem diff_of_applyUpdateUser {tick : Tick} {t : Tables} {userId : Uuid} {row : User}
    {data : UserUpdate} {applied : Applied User} (found : t.getUser userId = some row)
    (done : UserService.applyUpdateUser tick t (some userId) data = .ok applied) :
    applied.changes = fieldChanges row.auditValues (data.apply row).auditValues := by
  simp only [UserService.applyUpdateUser, Option.bind_some, found] at done
  rw [← Except.ok.inj done]

/-- The diff of a committed update of a task names fields of the task. -/
theorem named_planTask (clientId taskId : Uuid) (task : PlanTask) (data : PlanTaskUpdate) :
    ∀ entry ∈ (data.diff task).getD [],
      entry.1 ∈ (PlanTask.fields clientId taskId).map Field.name := by
  have known (row : PlanTask) : ∀ entry ∈ row.auditValues,
      entry.1 ∈ (PlanTask.fields clientId taskId).map Field.name :=
    fun entry inside => List.mem_map_of_mem inside
  exact named_of_keys (fun entry inside => known task entry (List.mem_filter.mp inside).1)
    fun entry inside => known (data.apply task) entry (List.mem_filter.mp inside).1

/-- A brand snapshot names fields of the brand. -/
theorem snapshot_named (clientId : Uuid) (row : Client) :
    ∀ entry ∈ OnboardingService.brandSnapshot row,
      entry.1 ∈ (Client.brandFields clientId).map Field.name := by
  intro entry inside
  have key : entry.1 ∈ (OnboardingService.brandSnapshot row).map Prod.fst :=
    List.mem_map_of_mem inside
  have covered : ∀ name ∈ ["about_brand", "brand_voice", "color_guidelines", "logo_url", "colors",
      "fonts"], name ∈ ["about_brand", "brand_voice", "brand_extracted", "color_guidelines",
      "logo_url", "colors", "fonts"] := by decide
  exact covered entry.1 key

/-- The diff of a committed update tells every field the update can change, and no other, exactly
when it sends nothing that its diff leaves out or writes otherwise than it is stored. -/
theorem shown_iff {tick : Tick} {db db' : Database} {update : Update env}
    {changes : Option Changes} {t : Tables}
    (applied : update.apply tick db.tables = .ok (changes, t)) (committed : commit t = .ok db') :
    update.Shown db.tables db'.tables changes ↔ update.Tellable db.tables := by
  rw [commit_ok committed]
  cases update with
  | planTask clientId taskId data =>
    obtain ⟨result, done, same⟩ := Outcome.of_map_ok applied
    obtain ⟨rfl, rfl⟩ := Prod.mk.inj same
    obtain ⟨task, found, -, -, tables⟩ := PlanService.applyUpdateTask_ok done
    rw [diff_of_applyUpdateTask found done, tables]
    have told := PlanTask.told_iff found (getTask_leaves tick data found)
      (db.task_stored (Table.get_mem found))
    exact ⟨fun shown => told.mp shown.told, fun plain =>
      ⟨told.mpr plain, named_planTask clientId taskId task data⟩⟩
  | client clientId data =>
    obtain ⟨result, done, same⟩ := Outcome.of_map_ok applied
    obtain ⟨rfl, rfl⟩ := Prod.mk.inj same
    obtain ⟨row, found, -, tables⟩ := ClientService.applyUpdateClient_ok done
    rw [diff_of_applyUpdateClient found done, tables]
    have left := getClient_touched tick.now data.apply (fun _ => rfl) found
    exact ⟨fun _ => trivial, fun _ => ⟨Client.told found left, named_of_keys
      (fun entry inside => List.mem_map_of_mem inside)
      fun entry inside => List.mem_map_of_mem inside⟩⟩
  | brand clientId data =>
    simp only [apply] at applied
    split at applied
    case h_1 => cases applied
    case h_2 row found =>
      obtain ⟨rfl, rfl⟩ := Prod.mk.inj (Except.ok.inj applied)
      obtain rfl : row.id = clientId := Table.get_key found
      have left : (OnboardingService.applyUpdateBrand env tick db.tables row
          data).tables.stored.getClient row.id =
          some (Client.touch tick.now row (data.apply row)) :=
        getClient_touched tick.now data.apply (fun _ => rfl) found
      have told := Client.told_brand_iff found left
      rw [← brandTellable_iff] at told
      constructor
      · intro shown other found'
        obtain rfl := Option.some.inj (found.symm.trans found')
        exact told.mp shown.told
      · intro plain
        refine ⟨told.mpr (plain row found), named_of_keys ?_ ?_⟩
        · exact fun entry inside => snapshot_named row.id row entry inside
        · exact fun entry inside => snapshot_named row.id (data.apply row) entry inside
  | user userId data =>
    obtain ⟨result, done, same⟩ := Outcome.of_map_ok applied
    obtain ⟨rfl, rfl⟩ := Prod.mk.inj same
    obtain ⟨row, found, -, tables⟩ := UserService.applyUpdateUser_ok done
    rw [Option.bind_some] at found
    have own : row.id = userId := Table.get_key found
    rw [diff_of_applyUpdateUser found done, tables, own]
    have left := getUser_touched tick.now data found
    exact ⟨fun _ => trivial, fun _ => ⟨User.told found left, named_of_keys
      (fun entry inside => List.mem_map_of_mem inside)
      fun entry inside => List.mem_map_of_mem inside⟩⟩

/-- A client with one colour, which has a label. -/
def brandedClient : Client := { sampleClient with brandColors := [⟨"#112233", some "Primary", 0⟩] }

/-- The client and an administrator. -/
def brandedDatabase : Database where
  tables := { sampleTables [] with clients := [brandedClient] }
  consistent := by decide
  columns := rfl

/-- What the update reads of the clock. -/
def brandTick : Tick := ⟨10, 5, 6, 7⟩

/-- A brand update that sends a text. -/
def introduce : BrandUpdate :=
  ⟨some (some ⟨"Since 1950", by decide⟩), none, none, none, none, none, none⟩

/-- What the update reports and leaves. -/
def introduced : Applied Client :=
  OnboardingService.applyUpdateBrand sampleEnv brandTick brandedDatabase.tables brandedClient
    introduce

/-- The update can be committed. -/
theorem introduced_consistent : introduced.tables.Consistent := by decide

/-- The diff of the update tells its text, and no other field. -/
theorem introduced_shown : (Update.brand 2 introduce : Update sampleEnv).Shown
    brandedDatabase.tables introduced.tables.stored introduced.changes := by
  have applied : (Update.brand 2 introduce : Update sampleEnv).apply brandTick
      brandedDatabase.tables = .ok (introduced.changes, introduced.tables) := rfl
  refine (shown_iff applied (commit_of_consistent introduced_consistent)).mpr ?_
  intro row found
  refine ⟨?_, ?_, ?_⟩
  all_goals
    intro _ sent
    cases sent

/-- A brand update that sends the colour under another label. -/
def relabel : BrandUpdate :=
  ⟨none, none, none, some (some ⟨[⟨⟨"#112233", by decide⟩, some (some ⟨"Accent", by decide⟩)⟩],
    by decide⟩), none, none, none⟩

/-- What the update reports and leaves. -/
def relabelled : Applied Client :=
  OnboardingService.applyUpdateBrand sampleEnv brandTick brandedDatabase.tables brandedClient
    relabel

/-- The update can be committed. -/
theorem relabelled_consistent : relabelled.tables.Consistent := by decide

/-- A colour gets another label, and the approver is shown no change. -/
theorem relabelled_unshown :
    (Update.brand 2 relabel : Update sampleEnv).apply brandTick brandedDatabase.tables =
        .ok (none, relabelled.tables) ∧
      commit relabelled.tables = .ok ⟨relabelled.tables.stored, relabelled_consistent.stored,
        relabelled.tables.stored_stored⟩ ∧
      (brandedDatabase.tables.getClient 2).map Client.brandColors =
        some [⟨"#112233", some "Primary", 0⟩] ∧
      (relabelled.tables.stored.getClient 2).map Client.brandColors =
        some [⟨"#112233", some "Accent", 0⟩] ∧
      ¬(Update.brand 2 relabel : Update sampleEnv).Shown brandedDatabase.tables
        relabelled.tables.stored none := by
  have before : (brandedDatabase.tables.getClient 2).map Client.brandColors =
      some [⟨"#112233", some "Primary", 0⟩] := rfl
  have after : (relabelled.tables.stored.getClient 2).map Client.brandColors =
      some [⟨"#112233", some "Accent", 0⟩] := rfl
  refine ⟨rfl, commit_of_consistent relabelled_consistent, before, after, fun shown => ?_⟩
  obtain ⟨listed, -⟩ := shown.told (Client.colorsField 2) (by simp [fields, Client.brandFields])
  have differs : (Client.colorsField 2).stored brandedDatabase.tables ≠
      (Client.colorsField 2).stored relabelled.tables.stored := by
    intro same
    exact absurd (before.symm.trans (same.trans after)) (by decide)
  obtain ⟨change, inside⟩ := listed.mpr differs
  cases inside

end Update

end MarketingOS
