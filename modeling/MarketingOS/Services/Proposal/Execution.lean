import MarketingOS.Services.Client

/-!
# Executing a staged operation

The dispatcher that decodes one persisted operation and replays its non-committing write, and
the loop that executes the operations of a claimed proposal in one transaction.
-/
namespace MarketingOS

/-- `json.loads` of the payload column: the keys of a dict with their values. -/
abbrev Payload : Type := List (String × Json)

namespace Payload

/-- `payload[key]`. -/
def get (payload : Payload) (key : String) : Outcome Json :=
  Outcome.ofOption .keyError (payload.lookup key)

/-- `uuid.UUID(value)`. -/
def toUuid : Json → Outcome Uuid
  | .str text => Outcome.ofOption .valueError (Uuid.parse text)
  | .null => raised .typeError
  | _ => raised .attributeError

/-- `uuid.UUID(payload[key])`. -/
def uuid (payload : Payload) (key : String) : Outcome Uuid := do
  let value ← get payload key
  toUuid value

/-- `ClientCapability(value)`. -/
def toCapability : Json → Outcome ClientCapability
  | .str text => Outcome.ofOption .valueError (Enumeration.ofValue text)
  | _ => raised .valueError

/-- The items `for item in value` runs over. -/
def iterate : Json → Outcome (List Json)
  | .arr items => .ok items
  | .str text => .ok (text.toList.map fun c => .str c.toString)
  | .obj fields => .ok (fields.map fun entry => .str entry.1)
  | _ => raised .typeError

/-- `bool(value)`. -/
def truthy : Json → Bool
  | .null => false
  | .bool value => value
  | .int value => decide (value ≠ 0)
  | .str text => decide (text ≠ "")
  | .arr items => !items.isEmpty
  | .obj fields => !fields.isEmpty

/-- `[ClientCapability(c) for c in value]`. -/
def toCapabilities (value : Json) : Outcome (List ClientCapability) := do
  let items ← iterate value
  items.mapM toCapability

end Payload

/-- What executing one operation returns: the operation with the diff of its execution, the
identifier and label to record, and the tables after it. -/
structure Executed where
  operation : ProposedOperation
  entityId : Option Uuid
  label : Option String
  tables : Tables
deriving DecidableEq

namespace ProposalService

/-- A replayed write with its diff, as `_execute_operation` returns it. -/
def executed {ρ : Type} (op : ProposedOperation) (entityId : ρ → Option Uuid)
    (label : ρ → Option String) (applied : Applied ρ) : Executed :=
  ⟨{ op with fieldChanges := applied.changes }, entityId applied.row, label applied.row,
    applied.tables⟩

/-- A lookup under the `entity_id` of an operation; no row has a null identifier. -/
def requireEntityId (op : ProposedOperation) (message : String) : Outcome Uuid :=
  match op.entityId with
  | none => notFound message
  | some entityId => .ok entityId

/-- `_execute_plan_task`. -/
def executePlanTask (tick : Tick) (t : Tables) (clientId : Uuid) (op : ProposedOperation)
    (payload : Payload) : Outcome Executed :=
  match op.operationType with
  | .create =>
    if (payload.lookup "source_task_id").isSome then do
      let source ← Payload.uuid payload "source_task_id"
      let createdBy ← Payload.uuid payload "created_by"
      let applied ← PlanService.applyDuplicateTask tick t clientId source createdBy
      pure (executed op (fun task => some task.id) PlanTask.title applied)
    else do
      let document ← Payload.get payload "data"
      let data ← PlanTaskCreate.decode document
      let createdBy ← Payload.uuid payload "created_by"
      let applied ← PlanService.applyCreateTask tick t clientId data createdBy
      pure (executed op (fun task => some task.id) PlanTask.title applied)
  | .update => do
    let document ← Payload.get payload "data"
    let data ← PlanTaskUpdate.decode document
    let taskId ← requireEntityId op "Task not found."
    let applied ← PlanService.applyUpdateTask tick t clientId taskId data
    pure (executed op (fun task => some task.id) PlanTask.title applied)
  | .delete => do
    let taskId ← requireEntityId op "Task not found."
    let applied ← PlanService.applyDeleteTask t clientId taskId
    pure (executed op (fun _ => op.entityId) PlanTask.title applied)
  | other => badRequest s!"Unsupported plan_task operation: {Enumeration.value other}"

/-- The capability list of an `assign` payload: an absent or falsy one stands for no list. -/
def storedCapabilities (payload : Payload) : Outcome (Option (List ClientCapability)) :=
  let stored := (payload.lookup "capabilities").getD .null
  if Payload.truthy stored then (Payload.toCapabilities stored).map some else .ok none

/-- `_execute_assignment`. -/
def executeAssignment (tick : Tick) (t : Tables) (clientId : Uuid) (op : ProposedOperation)
    (payload : Payload) : Outcome Executed := do
  let targetUserId ← Payload.uuid payload "user_id"
  match op.operationType with
  | .assign =>
    let caps ← storedCapabilities payload
    let assignedBy ← Payload.uuid payload "assigned_by"
    let (assignment, t) ← AssignmentService.applyAssign tick t clientId targetUserId assignedBy caps
    pure ⟨op, some assignment.id, none, t⟩
  | .update =>
    let stored ← Payload.get payload "capabilities"
    let caps ← Payload.toCapabilities stored
    let (assignment, t) ← AssignmentService.applySetCapabilities t clientId targetUserId caps
    pure ⟨op, some assignment.id, none, t⟩
  | .unassign =>
    let t ← AssignmentService.applyUnassign t clientId targetUserId
    pure ⟨op, op.entityId, none, t⟩
  | other => badRequest s!"Unsupported client_assignment operation: {Enumeration.value other}"

/-- `_execute_operation` — dispatch on the entity type. -/
def executeOperation (env : Environment) (tick : Tick) (t : Tables) (clientId : Uuid)
    (op : ProposedOperation) : Outcome Executed :=
  let payload := op.payload.getD []
  match op.entityType with
  | "plan_task" => executePlanTask tick t clientId op payload
  | "plan_task_note" => do
    let taskId ← Payload.uuid payload "task_id"
    let document ← Payload.get payload "data"
    let data ← PlanTaskNoteCreate.decode document
    let userId ← Payload.uuid payload "user_id"
    let (note, task, t) ← PlanService.applyAddNote tick t clientId taskId data userId
    pure ⟨op, some note.id, task.title, t⟩
  | "client_assignment" => executeAssignment tick t clientId op payload
  | "client" => do
    let document ← Payload.get payload "data"
    let data ← ClientUpdate.decode env document
    let applied ← ClientService.applyUpdateClient env tick t clientId data
    pure (executed op (fun client => some client.id) Client.name applied)
  | "client_brand" =>
    match t.getClient clientId with
    | none => notFound "Client not found."
    | some client => do
      let document ← Payload.get payload "data"
      let data ← BrandUpdate.decode document
      let applied := OnboardingService.applyUpdateBrand env tick t client data
      pure (executed op (fun client => some client.id) Client.name applied)
  | "user" => do
    let document ← Payload.get payload "data"
    let data ← UserUpdate.decode document
    let applied ← UserService.applyUpdateUser tick t op.entityId data
    pure (executed op (fun user => some user.id) (fun user => some user.email) applied)
  | other => badRequest s!"Unknown proposal entity type: {other}"

/-- The operation row after its execution: an identifier or label replaces the staged one. -/
def markExecuted (result : Executed) : ProposedOperation :=
  { result.operation with
    status := .executed
    entityId := result.entityId.or result.operation.entityId
    entityLabel := result.label.or result.operation.entityLabel }

/-- The audit row of an executed operation. -/
def auditRow (tick : Tick) (user : User) (clientId proposalId : Uuid) (op : ProposedOperation) :
    AuditLog where
  id := tick.auditId
  actorUserId := some user.id
  clientId := some clientId
  proposalId := some proposalId
  entity := op.entityType
  entityId := op.entityId
  action := s!"{op.entityType}.{Enumeration.value op.operationType}.ai_approved"
  targetLabel := op.entityLabel
  changes := op.fieldChanges
  createdAt := tick.now

/-- The flush after one operation, which also sends the operation row: its label column holds
200 characters. -/
def flushOperation (op : ProposedOperation) (t : Tables) : Outcome Tables :=
  if fits 200 op.entityLabel then flush t else raised .dbapiError

/-- One turn of the execution loop: execute, mark the operation, write its audit row, flush. -/
def executeAndRecord (env : Environment) (tick : Tick) (user : User) (clientId proposalId : Uuid)
    (t : Tables) (op : ProposedOperation) : Outcome (ProposedOperation × Tables) := do
  let result ← executeOperation env tick t clientId op
  let marked := markExecuted result
  let t ← flushOperation marked { result.tables with
    auditLog := result.tables.auditLog ++ [auditRow tick user clientId proposalId marked] }
  pure (marked, t)

/-- How the execution loop ends: every operation executed, one of them refused with an
`AppError`, or another exception left the loop. -/
inductive LoopEnd where
  | finished (operations : List ProposedOperation) (tables : Tables)
  | refused (seq : Nat) (error : AppError)
  | raised (error : PyError)
deriving DecidableEq

/-- The execution loop; `except AppError` breaks out of it, any other exception leaves it. -/
def executeAll (env : Environment) (ticks : Nat → Tick) (user : User) (clientId proposalId : Uuid) :
    Tables → List ProposedOperation → LoopEnd
  | t, [] => .finished [] t
  | t, op :: rest =>
    match executeAndRecord env (ticks op.seq) user clientId proposalId t op with
    | .error (.app error) => .refused op.seq error
    | .error (.other error) => .raised error
    | .ok (marked, t) =>
      match executeAll env ticks user clientId proposalId t rest with
      | .finished done t => .finished (marked :: done) t
      | ended => ended

end ProposalService

end MarketingOS
