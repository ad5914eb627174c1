import MarketingOS.Services.Proposal.Staging

/-!
# Write tools

The bulk tools of the assistant: one dry run for each task of a scope, with the tasks that cannot be
staged reported and left out. The identifiers are those `_resolve_bulk_task_ids` returns, which may
be a list the assistant was given. A turn collects the operations of its successful calls.
-/
namespace MarketingOS

/-- `StagedBatch` — several staged operations, with the tasks skipped and the reasons. -/
structure StagedBatch where
  operations : List StagedOperation
  skipped : List (Uuid × String)
deriving DecidableEq

namespace Handlers

open ProposalService

/-- The loop of the bulk tools: an `AppError` skips the task, any other exception leaves the tool. -/
def stageEach (stage : Uuid → Outcome Staged) : List Uuid → Outcome StagedBatch
  | [] => .ok ⟨[], []⟩
  | taskId :: rest =>
    match stage taskId with
    | .ok staged => do
      let batch ← stageEach stage rest
      pure { batch with operations := staged.operation :: batch.operations }
    | .error (.app error) => do
      let batch ← stageEach stage rest
      pure { batch with skipped := (taskId, error.message) :: batch.skipped }
    | .error (.other error) => raised error

/-- No dates and no times are in order. -/
theorem checkRanges_none : checkRanges none none none none = .ok () := rfl

/-- The update of `propose_bulk_update_plan_tasks`, of the fields that are given. -/
def bulkUpdate (newStatus : Option TaskStatus) (priority : Option TaskPriority)
    (category : Option TaskCategory) (archived : Option Bool) : PlanTaskUpdate where
  title := none
  description := none
  requirements := none
  category := category.map some
  status := newStatus.map some
  priority := priority.map some
  assigneeId := none
  startDate := none
  dueDate := none
  startTime := none
  endTime := none
  archived := archived.map some
  ranges := checkRanges_none

/-- `propose_bulk_update_plan_tasks` -/
def proposeBulkUpdatePlanTasks (tick : Tick) (t : Tables) (clientId : Uuid) (user : User)
    (ids : List Uuid) (newStatus : Option TaskStatus) (priority : Option TaskPriority)
    (category : Option TaskCategory) (archived : Option Bool) : Outcome StagedBatch :=
  if newStatus.isNone ∧ priority.isNone ∧ category.isNone ∧ archived.isNone then raised .valueError
  else if ids.isEmpty then raised .valueError
  else
    let data := bulkUpdate newStatus priority category archived
    stageEach (fun taskId => stagePlanTaskUpdate tick t clientId user taskId data) ids

/-- `propose_bulk_delete_plan_tasks` -/
def proposeBulkDeletePlanTasks (t : Tables) (clientId : Uuid) (user : User) (ids : List Uuid) :
    Outcome StagedBatch :=
  if ids.isEmpty then raised .valueError
  else stageEach (stagePlanTaskDelete t clientId user) ids

end Handlers

/-- A call that stages: a `stage_*` method or a bulk tool. -/
inductive ToolCall (env : Environment) where
  | single (tick : Tick) (call : StageCall env)
  | bulkUpdate (tick : Tick) (ids : List Uuid) (newStatus : Option TaskStatus)
      (priority : Option TaskPriority) (category : Option TaskCategory) (archived : Option Bool)
  | bulkDelete (ids : List Uuid)

namespace Handlers

variable {env : Environment}

/-- The operations one call stages. -/
def propose (t : Tables) (clientId : Uuid) (user : User) :
    ToolCall env → Outcome (List StagedOperation)
  | .single tick call =>
    (ProposalService.stage env tick t clientId user call).map fun staged => [staged.operation]
  | .bulkUpdate tick ids newStatus priority category archived =>
    (proposeBulkUpdatePlanTasks tick t clientId user ids newStatus priority category archived).map
      StagedBatch.operations
  | .bulkDelete ids =>
    (proposeBulkDeletePlanTasks t clientId user ids).map StagedBatch.operations

/-- The `TurnDraft` of a turn whose calls all succeed; every dry run is rolled back. -/
def collect (t : Tables) (clientId : Uuid) (user : User) :
    List (ToolCall env) → Outcome (List StagedOperation)
  | [] => .ok []
  | call :: rest => do
    let operations ← propose t clientId user call
    let later ← collect t clientId user rest
    pure (operations ++ later)

/-- The `stage_*` calls behind a call, without those a bulk tool skips. -/
def stageCalls (t : Tables) (clientId : Uuid) (user : User) :
    ToolCall env → List (StageCall env)
  | .single _ call => [call]
  | .bulkUpdate tick ids newStatus priority category archived =>
    let data := Handlers.bulkUpdate newStatus priority category archived
    let staged := ids.filter fun taskId =>
      (ProposalService.stagePlanTaskUpdate tick t clientId user taskId data).isOk
    staged.map fun taskId => .planTaskUpdate taskId data
  | .bulkDelete ids =>
    let staged := ids.filter fun taskId =>
      (ProposalService.stagePlanTaskDelete t clientId user taskId).isOk
    staged.map .planTaskDelete

end Handlers

end MarketingOS
