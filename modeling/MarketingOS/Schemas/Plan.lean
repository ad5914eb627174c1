import MarketingOS.Models.Enums
import MarketingOS.Schemas.Common

/-!
# Plan schemas

The bodies of the task-board requests. A value of a schema carries the proof that its validator
accepted it, and its JSON form is accepted again with the same result.
-/
namespace MarketingOS

open JsonCodec

/-- Whether both days are there and the first comes after the second. -/
def datesInverted : Option Date → Option Date → Bool
  | some start, some due => decide (due < start)
  | _, _ => false

/-- Whether both times are there and the first comes after the second; Python cannot compare a
time that has an offset with one that has none. -/
def timesInverted : Option Time → Option Time → Option Bool
  | some start, some finish => start.gt finish
  | _, _ => some false

/-- Refuse an inverted range of days with one error and of times with another. -/
def checkRangesWith (dates times : Exc) (startDate dueDate : Option Date)
    (startTime endTime : Option Time) : Outcome Unit :=
  if datesInverted startDate dueDate then .error dates
  else match timesInverted startTime endTime with
    | none => raised .typeError
    | some true => .error times
    | some false => .ok ()

/-- `_check_ranges` — the `ValueError` of an inverted range is what pydantic refuses a body with;
the `TypeError` of two times that cannot be compared passes through. -/
def checkRanges : Option Date → Option Date → Option Time → Option Time → Outcome Unit :=
  checkRangesWith (.other .validationError) (.other .validationError)

/-- Ranges are accepted when neither is inverted. -/
theorem checkRangesWith_ok {dates times : Exc} {startDate dueDate : Option Date}
    {startTime endTime : Option Time} :
    checkRangesWith dates times startDate dueDate startTime endTime = .ok () ↔
      datesInverted startDate dueDate = false ∧ timesInverted startTime endTime = some false := by
  unfold checkRangesWith
  split
  · next inverted => simp [inverted]
  · next ordered =>
    split
    · next clash => simp [raised, clash]
    · next inverted => simp [inverted]
    · next fine => simp [ordered, fine]

/-- `PlanTaskCreate`. -/
structure PlanTaskCreate where
  title : BoundedText 1 200
  description : Option (BoundedText 0 maxText)
  requirements : Option (BoundedText 0 maxText)
  category : TaskCategory
  status : TaskStatus
  priority : TaskPriority
  assigneeId : Option Uuid
  startDate : Option Date
  dueDate : Option Date
  startTime : Option Time
  endTime : Option Time
  /-- `_validate_ranges` accepted the ranges. -/
  ranges : checkRanges startDate dueDate startTime endTime = .ok ()
deriving DecidableEq

namespace PlanTaskCreate

/-- The fields the schema knows. -/
def names : List String :=
  ["title", "description", "requirements", "category", "status", "priority", "assignee_id",
    "start_date", "due_date", "start_time", "end_time"]

/-- Run the validator on the fields. -/
def validate (title : BoundedText 1 200) (description requirements : Option (BoundedText 0 maxText))
    (category : TaskCategory) (status : TaskStatus) (priority : TaskPriority)
    (assigneeId : Option Uuid) (startDate dueDate : Option Date) (startTime endTime : Option Time) :
    Outcome PlanTaskCreate :=
  match ranges : checkRanges startDate dueDate startTime endTime with
  | .ok () => .ok ⟨title, description, requirements, category, status, priority, assigneeId,
      startDate, dueDate, startTime, endTime, ranges⟩
  | .error exc => .error exc

/-- `PlanTaskCreate(**document)`. -/
def decode (document : Json) : Outcome PlanTaskCreate := do
  let fields ← Schema.arguments document
  Schema.forbidExtra names fields
  let title ← Schema.field (required (BoundedText.codec 1 200)) fields "title"
  let description ← Schema.field (optional (BoundedText.codec 0 maxText)) fields "description"
  let requirements ← Schema.field (optional (BoundedText.codec 0 maxText)) fields "requirements"
  let category ← Schema.field (withDefault (enumeration TaskCategory) .strategy) fields "category"
  let status ← Schema.field (withDefault (enumeration TaskStatus) .todo) fields "status"
  let priority ← Schema.field (withDefault (enumeration TaskPriority) .medium) fields "priority"
  let assigneeId ← Schema.field (optional Uuid.codec) fields "assignee_id"
  let startDate ← Schema.field (optional Date.codec) fields "start_date"
  let dueDate ← Schema.field (optional Date.codec) fields "due_date"
  let startTime ← Schema.field (optional Time.codec) fields "start_time"
  let endTime ← Schema.field (optional Time.codec) fields "end_time"
  validate title description requirements category status priority assigneeId startDate dueDate
    startTime endTime

/-- The entries of `model_dump(mode="json")`. -/
def entries (data : PlanTaskCreate) : List (String × Option Json) :=
  [("title", some ((BoundedText.codec 1 200).encode data.title)),
    ("description", some ((BoundedText.codec 0 maxText).encodeNullable data.description)),
    ("requirements", some ((BoundedText.codec 0 maxText).encodeNullable data.requirements)),
    ("category", some ((enumeration TaskCategory).encode data.category)),
    ("status", some ((enumeration TaskStatus).encode data.status)),
    ("priority", some ((enumeration TaskPriority).encode data.priority)),
    ("assignee_id", some (Uuid.codec.encodeNullable data.assigneeId)),
    ("start_date", some (Date.codec.encodeNullable data.startDate)),
    ("due_date", some (Date.codec.encodeNullable data.dueDate)),
    ("start_time", some (Time.codec.encodeNullable data.startTime)),
    ("end_time", some (Time.codec.encodeNullable data.endTime))]

/-- `data.model_dump(mode="json")`. -/
def encode (data : PlanTaskCreate) : Json := .obj (Json.sparse data.entries)

/-- The fields of a value pass its validator. -/
theorem validate_self (data : PlanTaskCreate) :
    validate data.title data.description data.requirements data.category data.status data.priority
      data.assigneeId data.startDate data.dueDate data.startTime data.endTime = .ok data := by
  obtain ⟨title, description, requirements, category, status, priority, assigneeId, startDate,
    dueDate, startTime, endTime, ranges⟩ := data
  unfold validate
  split
  · rfl
  · next exc refused => exact absurd (ranges.symm.trans refused) (by simp)

/-- A dumped value is accepted again, unchanged. -/
theorem decode_encode (data : PlanTaskCreate) : decode data.encode = .ok data := by
  have covers : data.entries.map Prod.fst = names := rfl
  have distinct : (data.entries.map Prod.fst).Nodup := by rw [covers]; decide
  simp only [decode, encode, Schema.arguments, Schema.forbidExtra_sparse covers, Schema.field,
    Json.lookup_sparse _ distinct, bind, Except.bind]
  simp [entries, List.lookup_cons, Outcome.ofOption, validate_self]

end PlanTaskCreate

/-- `PlanTaskUpdate` — only the fields that were sent are applied. -/
structure PlanTaskUpdate where
  title : Patch (BoundedText 1 200)
  description : Patch (BoundedText 0 maxText)
  requirements : Patch (BoundedText 0 maxText)
  category : Patch TaskCategory
  status : Patch TaskStatus
  priority : Patch TaskPriority
  assigneeId : Patch Uuid
  startDate : Patch Date
  dueDate : Patch Date
  startTime : Patch Time
  endTime : Patch Time
  archived : Patch Bool
  /-- `_validate_ranges` accepted what was sent. -/
  ranges : checkRanges startDate.read dueDate.read startTime.read endTime.read = .ok ()
deriving DecidableEq

namespace PlanTaskUpdate

/-- The fields the schema knows. -/
def names : List String :=
  ["title", "description", "requirements", "category", "status", "priority", "assignee_id",
    "start_date", "due_date", "start_time", "end_time", "archived"]

/-- Run the validator on the fields. -/
def validate (title : Patch (BoundedText 1 200))
    (description requirements : Patch (BoundedText 0 maxText)) (category : Patch TaskCategory)
    (status : Patch TaskStatus) (priority : Patch TaskPriority) (assigneeId : Patch Uuid)
    (startDate dueDate : Patch Date) (startTime endTime : Patch Time) (archived : Patch Bool) :
    Outcome PlanTaskUpdate :=
  match ranges : checkRanges startDate.read dueDate.read startTime.read endTime.read with
  | .ok () => .ok ⟨title, description, requirements, category, status, priority, assigneeId,
      startDate, dueDate, startTime, endTime, archived, ranges⟩
  | .error exc => .error exc

/-- `PlanTaskUpdate(**document)`. -/
def decode (document : Json) : Outcome PlanTaskUpdate := do
  let fields ← Schema.arguments document
  Schema.forbidExtra names fields
  let title ← Schema.field (Patch.decode (BoundedText.codec 1 200)) fields "title"
  let description ← Schema.field (Patch.decode (BoundedText.codec 0 maxText)) fields "description"
  let requirements ← Schema.field (Patch.decode (BoundedText.codec 0 maxText)) fields "requirements"
  let category ← Schema.field (Patch.decode (enumeration TaskCategory)) fields "category"
  let status ← Schema.field (Patch.decode (enumeration TaskStatus)) fields "status"
  let priority ← Schema.field (Patch.decode (enumeration TaskPriority)) fields "priority"
  let assigneeId ← Schema.field (Patch.decode Uuid.codec) fields "assignee_id"
  let startDate ← Schema.field (Patch.decode Date.codec) fields "start_date"
  let dueDate ← Schema.field (Patch.decode Date.codec) fields "due_date"
  let startTime ← Schema.field (Patch.decode Time.codec) fields "start_time"
  let endTime ← Schema.field (Patch.decode Time.codec) fields "end_time"
  let archived ← Schema.field (Patch.decode JsonCodec.bool) fields "archived"
  validate title description requirements category status priority assigneeId startDate dueDate
    startTime endTime archived

/-- The entries of `model_dump(mode="json", exclude_unset=True)`; a field not sent has none. -/
def entries (data : PlanTaskUpdate) : List (String × Option Json) :=
  [("title", data.title.encode (BoundedText.codec 1 200)),
    ("description", data.description.encode (BoundedText.codec 0 maxText)),
    ("requirements", data.requirements.encode (BoundedText.codec 0 maxText)),
    ("category", data.category.encode (enumeration TaskCategory)),
    ("status", data.status.encode (enumeration TaskStatus)),
    ("priority", data.priority.encode (enumeration TaskPriority)),
    ("assignee_id", data.assigneeId.encode Uuid.codec),
    ("start_date", data.startDate.encode Date.codec),
    ("due_date", data.dueDate.encode Date.codec),
    ("start_time", data.startTime.encode Time.codec),
    ("end_time", data.endTime.encode Time.codec),
    ("archived", data.archived.encode JsonCodec.bool)]

/-- `data.model_dump(mode="json", exclude_unset=True)`. -/
def encode (data : PlanTaskUpdate) : Json := .obj (Json.sparse data.entries)

/-- The fields of a value pass its validator. -/
theorem validate_self (data : PlanTaskUpdate) :
    validate data.title data.description data.requirements data.category data.status data.priority
      data.assigneeId data.startDate data.dueDate data.startTime data.endTime data.archived =
      .ok data := by
  obtain ⟨title, description, requirements, category, status, priority, assigneeId, startDate,
    dueDate, startTime, endTime, archived, ranges⟩ := data
  unfold validate
  split
  · rfl
  · next exc refused => exact absurd (ranges.symm.trans refused) (by simp)

/-- A dumped value is accepted again, with the same fields sent. -/
theorem decode_encode (data : PlanTaskUpdate) : decode data.encode = .ok data := by
  have covers : data.entries.map Prod.fst = names := rfl
  have distinct : (data.entries.map Prod.fst).Nodup := by rw [covers]; decide
  simp only [decode, encode, Schema.arguments, Schema.forbidExtra_sparse covers, Schema.field,
    Json.lookup_sparse _ distinct, bind, Except.bind]
  simp [entries, List.lookup_cons, Outcome.ofOption, validate_self]

end PlanTaskUpdate

/-- `PlanTaskNoteCreate`. -/
structure PlanTaskNoteCreate where
  body : BoundedText 1 maxText
deriving DecidableEq

namespace PlanTaskNoteCreate

/-- `PlanTaskNoteCreate(**document)`. -/
def decode (document : Json) : Outcome PlanTaskNoteCreate := do
  let fields ← Schema.arguments document
  Schema.forbidExtra ["body"] fields
  let body ← Schema.field (required (BoundedText.codec 1 maxText)) fields "body"
  pure ⟨body⟩

/-- `data.model_dump(mode="json")`. -/
def encode (data : PlanTaskNoteCreate) : Json :=
  .obj [("body", (BoundedText.codec 1 maxText).encode data.body)]

/-- A dumped note is accepted again, unchanged. -/
theorem decode_encode (data : PlanTaskNoteCreate) : decode data.encode = .ok data := by
  simp [decode, encode, Schema.arguments, Schema.forbidExtra, Json.onlyKeys, Schema.field,
    Outcome.ofOption, bind, Except.bind, pure, Except.pure]

end PlanTaskNoteCreate

/-- `PlanGenerationAssign`. -/
structure PlanGenerationAssign where
  assigneeId : Uuid
  priority : Option TaskPriority
  dueDate : Option Date
deriving DecidableEq

/-- `PlanGenerationReject`. -/
structure PlanGenerationReject where
  reason : BoundedText 1 maxText
deriving DecidableEq

/-- `PlanGenerationRegenerate`. -/
structure PlanGenerationRegenerate where
  instructions : BoundedText 1 maxText
  reason : BoundedText 1 maxText
deriving DecidableEq

end MarketingOS
