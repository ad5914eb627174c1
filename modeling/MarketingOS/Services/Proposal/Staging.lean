import MarketingOS.Services.Proposal.Execution

/-!
# Staging an operation

The `stage_*` methods: each runs the real non-committing write inside a savepoint that is
rolled back, and serialises its arguments by hand for the replay at approval. A stage returns
the staged operation together with the tables inside the savepoint, which nothing else sees.
-/
namespace MarketingOS

/-- `StagedOperation` — one dry-run write that is not persisted yet. -/
structure StagedOperation where
  operationType : ProposedOperationType
  entityType : String
  entityId : Option Uuid
  entityLabel : Option String
  fieldChanges : Option Changes
  payload : Payload
  baseSnapshot : Option Timestamp
  requiredCapability : Option ClientCapability
  requiresAdmin : Bool
deriving DecidableEq

/-- A staged operation with the tables its dry run saw inside the savepoint. -/
structure Staged where
  operation : StagedOperation
  dryRun : Tables
deriving DecidableEq

/-- The row `create_proposal` adds for a staged operation. -/
def StagedOperation.persist (seq : Nat) (op : StagedOperation) : ProposedOperation where
  seq := seq
  operationType := op.operationType
  entityType := op.entityType
  entityId := op.entityId
  entityLabel := op.entityLabel
  fieldChanges := op.fieldChanges
  payload := some op.payload
  baseSnapshot := op.baseSnapshot
  requiredCapability := op.requiredCapability.map Enumeration.value
  requiresAdmin := op.requiresAdmin
  status := .pending
  error := none

/-- `str(id)` in a payload. -/
def Json.ofUuid (id : Uuid) : Json := .str id.print

/-- The values of a capability list in a payload. -/
def Json.ofCapabilities (caps : List ClientCapability) : Json :=
  .arr (caps.map fun c => .str (Enumeration.value c))

namespace ProposalService

variable (env : Environment) (tick : Tick) (t : Tables) (clientId : Uuid) (user : User)

/-- The admin gate of the stage methods that need one. -/
def requireAdmin (message : String) : Outcome Unit :=
  if user.role = .admin then .ok () else forbidden message

/-- `UserRepository.get`, or the error of the stage methods. -/
def requireUser (userId : Uuid) : Outcome User :=
  match t.getUser userId with
  | none => notFound "User not found."
  | some target => .ok target

/-- `stage_plan_task_create`. -/
def stagePlanTaskCreate (data : PlanTaskCreate) : Outcome Staged := do
  let _ ← ClientService.getClient t user clientId
  let applied ← PlanService.applyCreateTask tick t clientId data user.id
  pure ⟨{ operationType := .create, entityType := "plan_task", entityId := none
          entityLabel := applied.row.title, fieldChanges := applied.changes
          payload := [("data", data.encode), ("created_by", .ofUuid user.id)]
          baseSnapshot := none, requiredCapability := none, requiresAdmin := false },
    applied.tables⟩

/-- `stage_plan_task_update`. -/
def stagePlanTaskUpdate (taskId : Uuid) (data : PlanTaskUpdate) : Outcome Staged := do
  let _ ← ClientService.getClient t user clientId
  let existing ← PlanService.getTask t clientId taskId
  let applied ← PlanService.applyUpdateTask tick t clientId taskId data
  pure ⟨{ operationType := .update, entityType := "plan_task", entityId := some taskId
          entityLabel := existing.title, fieldChanges := applied.changes
          payload := [("data", data.encode)]
          baseSnapshot := some existing.updatedAt, requiredCapability := none
          requiresAdmin := false },
    applied.tables⟩

/-- `stage_plan_task_delete`. -/
def stagePlanTaskDelete (taskId : Uuid) : Outcome Staged := do
  let _ ← ClientService.getClient t user clientId
  let existing ← PlanService.getTask t clientId taskId
  let applied ← PlanService.applyDeleteTask t clientId taskId
  pure ⟨{ operationType := .delete, entityType := "plan_task", entityId := some taskId
          entityLabel := existing.title, fieldChanges := applied.changes
          payload := [], baseSnapshot := some existing.updatedAt
          requiredCapability := none, requiresAdmin := false },
    applied.tables⟩

/-- `stage_plan_task_duplicate`. -/
def stagePlanTaskDuplicate (taskId : Uuid) : Outcome Staged := do
  let _ ← ClientService.getClient t user clientId
  let applied ← PlanService.applyDuplicateTask tick t clientId taskId user.id
  pure ⟨{ operationType := .create, entityType := "plan_task", entityId := none
          entityLabel := applied.row.title, fieldChanges := applied.changes
          payload := [("source_task_id", .ofUuid taskId), ("created_by", .ofUuid user.id)]
          baseSnapshot := none, requiredCapability := none, requiresAdmin := false },
    applied.tables⟩

/-- `stage_plan_task_add_note`. -/
def stagePlanTaskAddNote (taskId : Uuid) (data : PlanTaskNoteCreate) : Outcome Staged := do
  let _ ← ClientService.getClient t user clientId
  let (note, task, dryRun) ← PlanService.applyAddNote tick t clientId taskId data user.id
  pure ⟨{ operationType := .create, entityType := "plan_task_note", entityId := none
          entityLabel := task.title, fieldChanges := createdChanges [("body", .str note.body)]
          payload := [("task_id", .ofUuid taskId), ("data", data.encode),
            ("user_id", .ofUuid user.id)]
          baseSnapshot := none, requiredCapability := none, requiresAdmin := false },
    dryRun⟩

/-- `[...] if capabilities else ...` — no list and the empty list take the other branch. -/
def capabilitiesOr (missing : Json) : Option (List ClientCapability) → Json
  | none | some [] => missing
  | some (c :: caps) => .ofCapabilities (c :: caps)

/-- `stage_assignment_assign`. -/
def stageAssignmentAssign (targetUserId : Uuid) (capabilities : Option (List ClientCapability)) :
    Outcome Staged := do
  let _ ← ClientService.getClient t user clientId
  requireAdmin user "Administrator privileges are required to manage assignments."
  let target ← requireUser t targetUserId
  let (_, dryRun) ←
    AssignmentService.applyAssign tick t clientId targetUserId user.id capabilities
  pure ⟨{ operationType := .assign, entityType := "client_assignment", entityId := none
          entityLabel := some target.email
          fieldChanges := createdChanges
            [("user_email", .str target.email),
              ("capabilities", capabilitiesOr (.str "full access") capabilities)]
          payload := [("user_id", .ofUuid targetUserId),
            ("capabilities", capabilitiesOr .null capabilities),
            ("assigned_by", .ofUuid user.id)]
          baseSnapshot := none, requiredCapability := none, requiresAdmin := true },
    dryRun⟩

/-- `stage_assignment_set_capabilities`. -/
def stageAssignmentSetCapabilities (targetUserId : Uuid) (capabilities : List ClientCapability) :
    Outcome Staged := do
  let _ ← ClientService.getClient t user clientId
  requireAdmin user "Administrator privileges are required to manage assignments."
  let existing ← AssignmentService.getAssignment t clientId targetUserId
  let (_, dryRun) ← AssignmentService.applySetCapabilities t clientId targetUserId capabilities
  pure ⟨{ operationType := .update, entityType := "client_assignment"
          entityId := some existing.id
          entityLabel := (t.getUser targetUserId).map User.email
          fieldChanges := fieldChanges
            [("capabilities", .ofCapabilities (AssignmentService.effectiveCaps
              existing.capabilities))]
            [("capabilities", .ofCapabilities capabilities)]
          payload := [("user_id", .ofUuid targetUserId),
            ("capabilities", .ofCapabilities capabilities)]
          baseSnapshot := none, requiredCapability := none, requiresAdmin := true },
    dryRun⟩

/-- `stage_assignment_unassign`. -/
def stageAssignmentUnassign (targetUserId : Uuid) : Outcome Staged := do
  let _ ← ClientService.getClient t user clientId
  requireAdmin user "Administrator privileges are required to manage assignments."
  let existing ← AssignmentService.getAssignment t clientId targetUserId
  let dryRun ← AssignmentService.applyUnassign t clientId targetUserId
  let email := (t.getUser targetUserId).map User.email
  pure ⟨{ operationType := .unassign, entityType := "client_assignment"
          entityId := some existing.id, entityLabel := email
          fieldChanges := deletedChanges [("user_email", .ofText email)]
          payload := [("user_id", .ofUuid targetUserId)]
          baseSnapshot := none, requiredCapability := none, requiresAdmin := true },
    dryRun⟩

/-- `stage_update_client`. -/
def stageUpdateClient (data : ClientUpdate env) : Outcome Staged := do
  let existing ← ClientService.getClient t user clientId
  requireAdmin user "Administrator privileges are required to edit a client."
  let applied ← ClientService.applyUpdateClient env tick t clientId data
  pure ⟨{ operationType := .update, entityType := "client", entityId := some clientId
          entityLabel := existing.name, fieldChanges := applied.changes
          payload := [("data", data.encode)]
          baseSnapshot := some existing.updatedAt, requiredCapability := none
          requiresAdmin := true },
    applied.tables⟩

/-- `stage_update_brand`. -/
def stageUpdateBrand (data : BrandUpdate) : Outcome Staged := do
  let existing ← ClientService.getClient t user clientId
  requireAdmin user "Administrator privileges are required to edit brand settings."
  let applied := OnboardingService.applyUpdateBrand env tick t existing data
  pure ⟨{ operationType := .update, entityType := "client_brand", entityId := some clientId
          entityLabel := existing.name, fieldChanges := applied.changes
          payload := [("data", data.encode)]
          baseSnapshot := some existing.updatedAt, requiredCapability := none
          requiresAdmin := true },
    applied.tables⟩

/-- `stage_update_user`. -/
def stageUpdateUser (targetUserId : Uuid) (data : UserUpdate) : Outcome Staged := do
  let _ ← ClientService.getClient t user clientId
  requireAdmin user "Administrator privileges are required to manage users."
  let target ← requireUser t targetUserId
  let applied ← UserService.applyUpdateUser tick t (some targetUserId) data
  pure ⟨{ operationType := .update, entityType := "user", entityId := some targetUserId
          entityLabel := some target.email, fieldChanges := applied.changes
          payload := [("data", data.encode)]
          baseSnapshot := some target.updatedAt, requiredCapability := none
          requiresAdmin := true },
    applied.tables⟩

end ProposalService

/-- The arguments of one `stage_*` call. -/
inductive StageCall (env : Environment) where
  | planTaskCreate (data : PlanTaskCreate)
  | planTaskUpdate (taskId : Uuid) (data : PlanTaskUpdate)
  | planTaskDelete (taskId : Uuid)
  | planTaskDuplicate (taskId : Uuid)
  | planTaskAddNote (taskId : Uuid) (data : PlanTaskNoteCreate)
  | assignmentAssign (targetUserId : Uuid) (capabilities : Option (List ClientCapability))
  | assignmentSetCapabilities (targetUserId : Uuid) (capabilities : List ClientCapability)
  | assignmentUnassign (targetUserId : Uuid)
  | updateClient (data : ClientUpdate env)
  | updateBrand (data : BrandUpdate)
  | updateUser (targetUserId : Uuid) (data : UserUpdate)
deriving DecidableEq

/-- Make one `stage_*` call. -/
def ProposalService.stage (env : Environment) (tick : Tick) (t : Tables) (clientId : Uuid)
    (user : User) : StageCall env → Outcome Staged
  | .planTaskCreate data => stagePlanTaskCreate tick t clientId user data
  | .planTaskUpdate taskId data => stagePlanTaskUpdate tick t clientId user taskId data
  | .planTaskDelete taskId => stagePlanTaskDelete t clientId user taskId
  | .planTaskDuplicate taskId => stagePlanTaskDuplicate tick t clientId user taskId
  | .planTaskAddNote taskId data => stagePlanTaskAddNote tick t clientId user taskId data
  | .assignmentAssign target caps => stageAssignmentAssign tick t clientId user target caps
  | .assignmentSetCapabilities target caps =>
    stageAssignmentSetCapabilities t clientId user target caps
  | .assignmentUnassign target => stageAssignmentUnassign t clientId user target
  | .updateClient data => stageUpdateClient env tick t clientId user data
  | .updateBrand data => stageUpdateBrand env tick t clientId user data
  | .updateUser target data => stageUpdateUser tick t clientId user target data

end MarketingOS
