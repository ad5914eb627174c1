import MarketingOS.Verif.Approval

/-! # What was dry-run is what gets executed

A stage method writes its arguments into a payload by hand, and the dispatcher reads them back
by hand. For each method, executing the persisted operation on the tables it was staged on
changes the tables as its dry run did. The one argument that does not survive is an empty
capability list of an assignment, which is read back as no list. -/
namespace MarketingOS

namespace Payload

/-- An identifier in a payload is read back. -/
@[simp] theorem toUuid_ofUuid (id : Uuid) : toUuid (.ofUuid id) = .ok id := by
  simp only [toUuid, Json.ofUuid, Uuid.parse_print, Outcome.ofOption]

/-- A capability list in a payload is read back, whatever its length. -/
@[simp] theorem toCapabilities_ofCapabilities (caps : List ClientCapability) :
    toCapabilities (.ofCapabilities caps) = .ok caps := by
  simp only [toCapabilities, Json.ofCapabilities, iterate, bind, Except.bind]
  induction caps with
  | nil => rfl
  | cons c caps ih =>
    simp only [List.map_cons, List.mapM_cons, toCapability, Enumeration.ofValue_value,
      Outcome.ofOption, ih, bind, Except.bind, pure, Except.pure]

end Payload

namespace ProposalService

/-- The capability list an `assign` payload stands for: an empty one is no list. -/
theorem storedCapabilities_capabilitiesOr (caps : Option (List ClientCapability))
    (front rear : Json) :
    storedCapabilities [("user_id", front), ("capabilities", capabilitiesOr .null caps),
        ("assigned_by", rear)] =
      .ok (if caps = some [] then none else caps) := by
  match caps with
  | none => rfl
  | some [] => rfl
  | some (c :: caps) =>
    have present : Payload.truthy (.ofCapabilities (c :: caps)) = true := rfl
    simp [storedCapabilities, capabilitiesOr, List.lookup_cons, present, Except.map]

section Replay

variable {env : Environment} {tick : Tick} {t : Tables} {clientId : Uuid} {user : User}
  {call : StageCall env} {staged : Staged}

/-- A client that can be accessed is the stored client. -/
theorem getClient_ok {client : Client}
    (found : ClientService.getClient t user clientId = .ok client) :
    t.getClient clientId = some client := by
  unfold ClientService.getClient at found
  split at found
  · cases found
  · next stored present =>
    split at found
    · obtain rfl := Except.ok.inj found
      exact present
    · cases found

/-- The write behind a staged operation, on any tables: what its payload stands for. -/
def replay (env : Environment) (tick : Tick) (t : Tables) (clientId : Uuid) (user : User)
    (op : ProposedOperation) : StageCall env → Outcome Executed
  | .planTaskCreate data =>
    (PlanService.applyCreateTask tick t clientId data user.id).map
      (executed op (fun task => some task.id) PlanTask.title)
  | .planTaskUpdate taskId data =>
    (PlanService.applyUpdateTask tick t clientId taskId data).map
      (executed op (fun task => some task.id) PlanTask.title)
  | .planTaskDelete taskId =>
    (PlanService.applyDeleteTask t clientId taskId).map
      (executed op (fun _ => op.entityId) PlanTask.title)
  | .planTaskDuplicate taskId =>
    (PlanService.applyDuplicateTask tick t clientId taskId user.id).map
      (executed op (fun task => some task.id) PlanTask.title)
  | .planTaskAddNote taskId data =>
    (PlanService.applyAddNote tick t clientId taskId data user.id).map fun result =>
      ⟨op, some result.1.id, result.2.1.title, result.2.2⟩
  | .assignmentAssign target caps =>
    (AssignmentService.applyAssign tick t clientId target user.id
      (if caps = some [] then none else caps)).map fun result =>
        ⟨op, some result.1.id, none, result.2⟩
  | .assignmentSetCapabilities target caps =>
    (AssignmentService.applySetCapabilities t clientId target caps).map fun result =>
      ⟨op, some result.1.id, none, result.2⟩
  | .assignmentUnassign target =>
    (AssignmentService.applyUnassign t clientId target).map fun t => ⟨op, op.entityId, none, t⟩
  | .updateClient data =>
    (ClientService.applyUpdateClient env tick t clientId data).map
      (executed op (fun client => some client.id) Client.name)
  | .updateBrand data =>
    match t.getClient clientId with
    | none => notFound "Client not found."
    | some client => .ok (executed op (fun client => some client.id) Client.name
        (OnboardingService.applyUpdateBrand env tick t client data))
  | .updateUser target data =>
    (UserService.applyUpdateUser tick t (some target) data).map
      (executed op (fun user => some user.id) fun user => some user.email)

/-- The dispatcher reads back what a stage wrote: executing the persisted operation on any tables
replays its write. -/
theorem executeOperation_persist (made : stage env tick t clientId user call = .ok staged)
    (seq : Nat) (tick' : Tick) (t' : Tables) :
    executeOperation env tick' t' clientId (staged.operation.persist seq) =
      replay env tick' t' clientId user (staged.operation.persist seq) call := by
  cases call with
  | planTaskCreate data =>
    simp only [stage, stagePlanTaskCreate, Outcome.bind_ok] at made
    obtain ⟨client, -, applied, -, made⟩ := made
    obtain rfl := Except.ok.inj made
    simp [List.lookup_cons, executeOperation, StagedOperation.persist, executePlanTask, Payload.get,
      Payload.uuid, PlanTaskCreate.decode_encode, replay, Outcome.bind_pure]
  | planTaskUpdate taskId data =>
    simp only [stage, stagePlanTaskUpdate, Outcome.bind_ok] at made
    obtain ⟨client, -, existing, -, applied, -, made⟩ := made
    obtain rfl := Except.ok.inj made
    simp [executeOperation, StagedOperation.persist, executePlanTask, Payload.get,
      PlanTaskUpdate.decode_encode, requireEntityId, replay, Outcome.bind_pure]
  | planTaskDelete taskId =>
    simp only [stage, stagePlanTaskDelete, Outcome.bind_ok] at made
    obtain ⟨client, -, existing, -, applied, -, made⟩ := made
    obtain rfl := Except.ok.inj made
    simp [executeOperation, StagedOperation.persist, executePlanTask, requireEntityId, replay,
      Outcome.bind_pure]
  | planTaskDuplicate taskId =>
    simp only [stage, stagePlanTaskDuplicate, Outcome.bind_ok] at made
    obtain ⟨client, -, applied, -, made⟩ := made
    obtain rfl := Except.ok.inj made
    simp [List.lookup_cons, executeOperation, StagedOperation.persist, executePlanTask, Payload.uuid,
      Payload.get, replay, Outcome.bind_pure]
  | planTaskAddNote taskId data =>
    simp only [stage, stagePlanTaskAddNote, Outcome.bind_ok] at made
    obtain ⟨client, -, ⟨note, task, dryRun⟩, -, made⟩ := made
    obtain rfl := Except.ok.inj made
    simp [List.lookup_cons, executeOperation, StagedOperation.persist, Payload.get, Payload.uuid,
      PlanTaskNoteCreate.decode_encode, replay, Outcome.bind_pure]
  | assignmentAssign target caps =>
    simp only [stage, stageAssignmentAssign, Outcome.bind_ok] at made
    obtain ⟨client, -, ⟨⟩, -, found, -, ⟨row, dryRun⟩, -, made⟩ := made
    obtain rfl := Except.ok.inj made
    simp only [executeOperation, StagedOperation.persist, Option.getD_some, executeAssignment,
      storedCapabilities_capabilitiesOr, Payload.uuid, Payload.get, replay]
    simp [List.lookup_cons, Outcome.bind_pure]
  | assignmentSetCapabilities target caps =>
    simp only [stage, stageAssignmentSetCapabilities, Outcome.bind_ok] at made
    obtain ⟨client, -, ⟨⟩, -, existing, -, ⟨row, dryRun⟩, -, made⟩ := made
    obtain rfl := Except.ok.inj made
    simp [List.lookup_cons, executeOperation, StagedOperation.persist, executeAssignment,
      Payload.get, Payload.uuid, replay, Outcome.bind_pure]
  | assignmentUnassign target =>
    simp only [stage, stageAssignmentUnassign, Outcome.bind_ok] at made
    obtain ⟨client, -, ⟨⟩, -, existing, -, dryRun, -, made⟩ := made
    obtain rfl := Except.ok.inj made
    simp [executeOperation, StagedOperation.persist, executeAssignment, Payload.get, Payload.uuid,
      replay, Outcome.bind_pure]
  | updateClient data =>
    simp only [stage, stageUpdateClient, Outcome.bind_ok] at made
    obtain ⟨client, -, ⟨⟩, -, applied, -, made⟩ := made
    obtain rfl := Except.ok.inj made
    simp [executeOperation, StagedOperation.persist, Payload.get, ClientUpdate.decode_encode, replay,
      Outcome.bind_pure]
  | updateBrand data =>
    simp only [stage, stageUpdateBrand, Outcome.bind_ok] at made
    obtain ⟨client, -, ⟨⟩, -, made⟩ := made
    obtain rfl := Except.ok.inj made
    simp only [executeOperation, StagedOperation.persist, replay, Option.getD_some]
    cases t'.getClient clientId with
    | none => rfl
    | some other => simp [Payload.get, BrandUpdate.decode_encode]
  | updateUser target data =>
    simp only [stage, stageUpdateUser, Outcome.bind_ok] at made
    obtain ⟨client, -, ⟨⟩, -, found, -, applied, -, made⟩ := made
    obtain rfl := Except.ok.inj made
    simp [executeOperation, StagedOperation.persist, Payload.get, UserUpdate.decode_encode, replay,
      Outcome.bind_pure]

/-- On the tables it was staged on, a write is replayed as its dry run made it, with an empty
capability list of an assignment set apart. -/
theorem replay_of_stage (made : stage env tick t clientId user call = .ok staged)
    (listed : ∀ target, call ≠ .assignmentAssign target (some [])) (op : ProposedOperation) :
    (replay env tick t clientId user op call).map Executed.tables = .ok staged.dryRun := by
  cases call with
  | planTaskCreate data =>
    simp only [stage, stagePlanTaskCreate, Outcome.bind_ok] at made
    obtain ⟨client, -, applied, done, made⟩ := made
    obtain rfl := Except.ok.inj made
    simp [replay, done, executed]
  | planTaskUpdate taskId data =>
    simp only [stage, stagePlanTaskUpdate, Outcome.bind_ok] at made
    obtain ⟨client, -, existing, -, applied, done, made⟩ := made
    obtain rfl := Except.ok.inj made
    simp [replay, done, executed]
  | planTaskDelete taskId =>
    simp only [stage, stagePlanTaskDelete, Outcome.bind_ok] at made
    obtain ⟨client, -, existing, -, applied, done, made⟩ := made
    obtain rfl := Except.ok.inj made
    simp [replay, done, executed]
  | planTaskDuplicate taskId =>
    simp only [stage, stagePlanTaskDuplicate, Outcome.bind_ok] at made
    obtain ⟨client, -, applied, done, made⟩ := made
    obtain rfl := Except.ok.inj made
    simp [replay, done, executed]
  | planTaskAddNote taskId data =>
    simp only [stage, stagePlanTaskAddNote, Outcome.bind_ok] at made
    obtain ⟨client, -, ⟨note, task, dryRun⟩, done, made⟩ := made
    obtain rfl := Except.ok.inj made
    simp [replay, done]
  | assignmentAssign target caps =>
    simp only [stage, stageAssignmentAssign, Outcome.bind_ok] at made
    obtain ⟨client, -, ⟨⟩, -, found, -, ⟨row, dryRun⟩, done, made⟩ := made
    obtain rfl := Except.ok.inj made
    have kept : caps ≠ some [] := fun empty => listed target (by rw [empty])
    simp only [replay, kept, ↓reduceIte, done, Outcome.map_ok]
  | assignmentSetCapabilities target caps =>
    simp only [stage, stageAssignmentSetCapabilities, Outcome.bind_ok] at made
    obtain ⟨client, -, ⟨⟩, -, existing, -, ⟨row, dryRun⟩, done, made⟩ := made
    obtain rfl := Except.ok.inj made
    simp [replay, done]
  | assignmentUnassign target =>
    simp only [stage, stageAssignmentUnassign, Outcome.bind_ok] at made
    obtain ⟨client, -, ⟨⟩, -, existing, -, dryRun, done, made⟩ := made
    obtain rfl := Except.ok.inj made
    simp [replay, done]
  | updateClient data =>
    simp only [stage, stageUpdateClient, Outcome.bind_ok] at made
    obtain ⟨client, -, ⟨⟩, -, applied, done, made⟩ := made
    obtain rfl := Except.ok.inj made
    simp [replay, done, executed]
  | updateBrand data =>
    simp only [stage, stageUpdateBrand, Outcome.bind_ok] at made
    obtain ⟨client, found, ⟨⟩, -, made⟩ := made
    obtain rfl := Except.ok.inj made
    simp [replay, getClient_ok found, executed]
  | updateUser target data =>
    simp only [stage, stageUpdateUser, Outcome.bind_ok] at made
    obtain ⟨client, -, ⟨⟩, -, found, -, applied, done, made⟩ := made
    obtain rfl := Except.ok.inj made
    simp [replay, done, executed]

/-- An assignment staged with the empty capability list is replayed with no list. -/
theorem replay_assign_empty {target : Uuid}
    (made : stage env tick t clientId user (.assignmentAssign target (some [])) = .ok staged)
    (op : ProposedOperation) :
    (replay env tick t clientId user op (.assignmentAssign target (some []))).map
      Executed.tables ≠ .ok staged.dryRun := by
  simp only [stage, stageAssignmentAssign, Outcome.bind_ok] at made
  obtain ⟨client, -, ⟨⟩, -, found, -, ⟨row, dryRun⟩, done, made⟩ := made
  obtain rfl := Except.ok.inj made
  intro replayed
  cases other : AssignmentService.applyAssign tick t clientId target user.id none with
  | error exc => simp [replay, other, Except.map] at replayed
  | ok result =>
    obtain ⟨row', tables⟩ := result
    simp only [replay, ↓reduceIte, other, Outcome.map_ok, Except.ok.injEq] at replayed
    obtain ⟨dryTables, dryRow⟩ := AssignmentService.applyAssign_ok done
    obtain ⟨runTables, runRow⟩ := AssignmentService.applyAssign_ok other
    have same : t.assignments ++ [row'] = t.assignments ++ [row] := by
      rw [runTables, dryTables] at replayed
      exact congrArg Tables.assignments replayed
    have rows := List.append_cancel_left same
    rw [runRow, dryRow] at rows
    simp [AssignmentService.sortedCaps] at rows

end Replay

/-- For every stage that succeeds, executing its persisted operation on the same tables changes
them as the dry run did, exactly when the stage is not an assignment with an empty capability
list. -/
theorem execution_replays_dry_run_iff (env : Environment) (tick : Tick) (t : Tables)
    (clientId : Uuid) (user : User) (call : StageCall env) (staged : Staged) (seq : Nat)
    (made : stage env tick t clientId user call = .ok staged) :
    (executeOperation env tick t clientId (staged.operation.persist seq)).map Executed.tables =
        .ok staged.dryRun ↔
      ∀ target, call ≠ .assignmentAssign target (some []) := by
  rw [executeOperation_persist made]
  constructor
  · intro replayed target same
    rw [same] at made replayed
    exact replay_assign_empty made _ replayed
  · exact fun listed => replay_of_stage made listed _

/-- A rename is staged and replayed. -/
theorem rename_replays :
    ∃ staged, stage sampleEnv (sampleTicks 0) (sampleTables []) 2 sampleAdmin
        (.planTaskUpdate 3 { emptyTaskUpdate with title := some (some ⟨"Final", by decide⟩) }) =
        .ok staged ∧
      (executeOperation sampleEnv (sampleTicks 0) (sampleTables []) 2
        (staged.operation.persist 0)).map Executed.tables = .ok staged.dryRun :=
  ⟨_, rfl, (execution_replays_dry_run_iff sampleEnv (sampleTicks 0) (sampleTables []) 2 sampleAdmin
    (.planTaskUpdate 3 { emptyTaskUpdate with title := some (some ⟨"Final", by decide⟩) }) _ 0
    rfl).mpr (by simp)⟩

/-- An assignment staged with no capability at all is executed with full access. -/
theorem empty_capabilities_become_full_access :
    ∃ staged executed, stage sampleEnv (sampleTicks 0) (sampleTables []) 2 sampleAdmin
        (.assignmentAssign 1 (some [])) = .ok staged ∧
      executeOperation sampleEnv (sampleTicks 0) (sampleTables []) 2
        (staged.operation.persist 0) = .ok executed ∧
      (staged.dryRun.getAssignment 2 1).map (fun row => capabilitiesFromStored row.capabilities) =
        some [] ∧
      (executed.tables.getAssignment 2 1).map
        (fun row => capabilitiesFromStored row.capabilities) = some Enumeration.members :=
  ⟨_, _, rfl, rfl, by decide, by decide⟩

end ProposalService

end MarketingOS
