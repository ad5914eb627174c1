import MarketingOS.Core.Environment
import MarketingOS.Schemas.Plan
import MarketingOS.Services.Audit

/-!
# The task board

The non-committing halves of the `PlanService` writes: what each changes in the tables a session
sees, and the diff it reports. The committing methods and the change proposals share them.
-/
namespace MarketingOS

/-- What a non-committing write returns: the row, its diff and the tables after it. -/
structure Applied (ρ : Type) where
  row : ρ
  changes : Option Changes
  tables : Tables
deriving DecidableEq

/-- `datetime.time.isoformat()` — unlike the JSON form of a schema, UTC is written as an
offset. -/
def Time.isoformat (time : Time) : String :=
  let body := time.stored.print
  match time.offset with
  | none => body
  | some minutes =>
    if minutes = 0 then body ++ "+00:00"
    else body ++ String.ofList (Time.printOffset (some minutes))

namespace PlanTask

/-- The `_MUTABLE` fields with their `_audit_value`. -/
def auditValues (task : PlanTask) : List (String × Json) :=
  [("title", .ofText task.title), ("description", .ofText task.description),
    ("requirements", .ofText task.requirements), ("category", .ofMember task.category),
    ("status", .ofMember task.status), ("priority", .ofMember task.priority),
    ("assignee_id", .ofText (task.assigneeId.map Uuid.print)),
    ("start_date", .ofText (task.startDate.map Date.print)),
    ("due_date", .ofText (task.dueDate.map Date.print)),
    ("start_time", .ofText (task.startTime.map Time.isoformat)),
    ("end_time", .ofText (task.endTime.map Time.isoformat)),
    ("archived", (task.archived.map Json.bool).getD .null)]

/-- The row a flush sends: `updated_at` moves when some column changed. -/
def touch (now : Timestamp) (before after : PlanTask) : PlanTask :=
  if after = before then before else { after with updatedAt := now }

end PlanTask

/-- The text of each field of a partial update. -/
def Patch.text {lower upper : Nat} (patch : Patch (BoundedText lower upper)) : Patch String :=
  patch.map fun value => value.map Subtype.val

namespace PlanTaskUpdate

/-- The fields that were sent (`model_fields_set`). -/
def sent (data : PlanTaskUpdate) : List String := (Json.sparse data.entries).map Prod.fst

/-- `setattr` of every field that was sent. -/
def apply (data : PlanTaskUpdate) (task : PlanTask) : PlanTask :=
  { task with
    title := data.title.text.onto task.title
    description := data.description.text.onto task.description
    requirements := data.requirements.text.onto task.requirements
    category := data.category.onto task.category
    status := data.status.onto task.status
    priority := data.priority.onto task.priority
    assigneeId := data.assigneeId.onto task.assigneeId
    startDate := data.startDate.onto task.startDate
    dueDate := data.dueDate.onto task.dueDate
    startTime := data.startTime.onto task.startTime
    endTime := data.endTime.onto task.endTime
    archived := data.archived.onto task.archived }

end PlanTaskUpdate

namespace PlanService

/-- `get_task`. -/
def getTask (t : Tables) (clientId taskId : Uuid) : Outcome PlanTask :=
  match t.getTask clientId taskId with
  | none => notFound "Task not found."
  | some task => .ok task

/-- The row `_apply_create_task` adds. -/
def newTask (tick : Tick) (clientId : Uuid) (data : PlanTaskCreate) (createdBy : Uuid) :
    PlanTask where
  id := tick.rowId
  clientId := clientId
  title := some data.title.val
  description := data.description.map Subtype.val
  requirements := data.requirements.map Subtype.val
  category := some data.category
  status := some data.status
  priority := some data.priority
  assigneeId := data.assigneeId
  eventId := none
  startDate := data.startDate
  dueDate := data.dueDate
  startTime := data.startTime
  endTime := data.endTime
  createdBy := some createdBy
  archived := some false
  createdAt := tick.now
  updatedAt := tick.now

/-- `_apply_create_task`. -/
def applyCreateTask (tick : Tick) (t : Tables) (clientId : Uuid) (data : PlanTaskCreate)
    (createdBy : Uuid) : Outcome (Applied PlanTask) := do
  let task := newTask tick clientId data createdBy
  let t ← flush { t with planTasks := t.planTasks ++ [task] }
  pure ⟨task, createdChanges
    [("title", .ofText task.title), ("category", .ofMember task.category),
      ("status", .ofMember task.status), ("start_date", .ofText (task.startDate.map Date.print)),
      ("due_date", .ofText (task.dueDate.map Date.print))], t⟩

/-- The range checks of `_apply_update_task`, on the merged row. -/
def checkMerged (data : PlanTaskUpdate) (task : PlanTask) : Outcome Unit :=
  checkRangesWith (.app ⟨.badRequest, "start_date must be on or before due_date"⟩)
    (.app ⟨.badRequest, "start_time must be on or before end_time"⟩)
    (data.startDate.onto task.startDate) (data.dueDate.onto task.dueDate)
    (data.startTime.onto task.startTime) (data.endTime.onto task.endTime)

/-- `_apply_update_task`. -/
def applyUpdateTask (tick : Tick) (t : Tables) (clientId taskId : Uuid) (data : PlanTaskUpdate) :
    Outcome (Applied PlanTask) := do
  let task ← getTask t clientId taskId
  checkMerged data task
  let touched := fun entry : String × Json => data.sent.contains entry.1
  pure ⟨PlanTask.touch tick.now task (data.apply task),
    fieldChanges (task.auditValues.filter touched) ((data.apply task).auditValues.filter touched),
    t.modifyTask taskId fun row => PlanTask.touch tick.now row (data.apply row)⟩

/-- `_apply_delete_task` — the notes and links of a task go with it. -/
def applyDeleteTask (t : Tables) (clientId taskId : Uuid) : Outcome (Applied PlanTask) := do
  let task ← getTask t clientId taskId
  let t ← flush { t with
    planTasks := Table.remove PlanTask.id taskId t.planTasks
    planTaskNotes := Table.remove PlanTaskNote.taskId taskId t.planTaskNotes
    planTaskAssets := Table.remove PlanTaskAsset.taskId taskId t.planTaskAssets }
  pure ⟨task, deletedChanges
    [("title", .ofText task.title), ("category", .ofMember task.category),
      ("status", .ofMember task.status)], t⟩

/-- The row `_apply_duplicate_task` adds: an unassigned `todo` copy. -/
def copyOf (tick : Tick) (clientId : Uuid) (source : PlanTask) (createdBy : Uuid) : PlanTask where
  id := tick.rowId
  clientId := clientId
  title := some (clip 200 (source.title.getD "None" ++ " (copy)"))
  description := source.description
  requirements := source.requirements
  category := source.category
  status := some .todo
  priority := source.priority
  assigneeId := none
  eventId := none
  startDate := source.startDate
  dueDate := source.dueDate
  startTime := source.startTime
  endTime := source.endTime
  createdBy := some createdBy
  archived := some false
  createdAt := tick.now
  updatedAt := tick.now

/-- `_apply_duplicate_task`. -/
def applyDuplicateTask (tick : Tick) (t : Tables) (clientId taskId createdBy : Uuid) :
    Outcome (Applied PlanTask) := do
  let source ← getTask t clientId taskId
  let copy := copyOf tick clientId source createdBy
  let t ← flush { t with planTasks := t.planTasks ++ [copy] }
  pure ⟨copy, createdChanges [("title", .ofText copy.title), ("category", .ofMember copy.category)],
    t⟩

/-- `_apply_add_note` — returns the note and its task. -/
def applyAddNote (tick : Tick) (t : Tables) (clientId taskId : Uuid) (data : PlanTaskNoteCreate)
    (userId : Uuid) : Outcome (PlanTaskNote × PlanTask × Tables) := do
  let task ← getTask t clientId taskId
  let note : PlanTaskNote := ⟨tick.rowId, task.id, some userId, data.body.val, tick.now⟩
  let t ← flush { t with planTaskNotes := t.planTaskNotes ++ [note] }
  pure (note, task, t)

/-- `create_task`. -/
def createTask (tick : Tick) (db : Database) (clientId : Uuid) (data : PlanTaskCreate)
    (createdBy : Uuid) : Outcome Database := do
  let applied ← applyCreateTask tick db.tables clientId data createdBy
  commit applied.tables

/-- `update_task`. -/
def updateTask (tick : Tick) (db : Database) (clientId taskId : Uuid) (data : PlanTaskUpdate) :
    Outcome Database := do
  let applied ← applyUpdateTask tick db.tables clientId taskId data
  commit applied.tables

/-- `delete_task`. -/
def deleteTask (db : Database) (clientId taskId : Uuid) : Outcome Database := do
  let applied ← applyDeleteTask db.tables clientId taskId
  commit applied.tables

/-- `duplicate_task`. -/
def duplicateTask (tick : Tick) (db : Database) (clientId taskId createdBy : Uuid) :
    Outcome Database := do
  let applied ← applyDuplicateTask tick db.tables clientId taskId createdBy
  commit applied.tables

end PlanService

end MarketingOS
