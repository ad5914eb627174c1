import MarketingOS.Services.Proposal.Lifecycle

/-! # What executing an operation leaves alone

A replayed write touches business rows and the job queue only: the audit trail and the
proposals stay as they were. The executor changes nothing of the operation row but its diff.
These frames are stated once for each write and joined by the dispatcher. -/
namespace MarketingOS

/-- Two states of the tables with the same audit trail and the same proposals. -/
structure Tables.SameRecords (t t' : Tables) : Prop where
  audit : t'.auditLog = t.auditLog
  proposals : t'.proposals = t.proposals

/-- Tables given by an equation have the same records when the other side has. -/
theorem Tables.SameRecords.of_eq {t t' written : Tables} (tables : t' = written)
    (same : t.SameRecords written) : t.SameRecords t' := tables ▸ same

namespace PlanService

/-- A task that was found is a row of the table, under the key it was looked up by. -/
theorem getTask_ok {t : Tables} {clientId taskId : Uuid} {task : PlanTask} :
    getTask t clientId taskId = .ok task ↔ t.getTask clientId taskId = some task := by
  unfold getTask
  cases t.getTask clientId taskId <;> simp [notFound]

/-- What a creation returns. -/
theorem applyCreateTask_ok {tick : Tick} {t : Tables} {clientId : Uuid} {data : PlanTaskCreate}
    {createdBy : Uuid} {applied : Applied PlanTask}
    (done : applyCreateTask tick t clientId data createdBy = .ok applied) :
    applied.row = newTask tick clientId data createdBy ∧
      applied.tables =
        { t with planTasks := t.planTasks ++ [newTask tick clientId data createdBy] } ∧
      applied.tables.Consistent := by
  simp only [applyCreateTask, Outcome.bind_ok] at done
  obtain ⟨flushed, sent, done⟩ := done
  obtain ⟨rfl, valid⟩ := flush_ok sent
  obtain rfl := Except.ok.inj done
  exact ⟨rfl, rfl, valid⟩

/-- What an update returns. -/
theorem applyUpdateTask_ok {tick : Tick} {t : Tables} {clientId taskId : Uuid}
    {data : PlanTaskUpdate} {applied : Applied PlanTask}
    (done : applyUpdateTask tick t clientId taskId data = .ok applied) :
    ∃ task, t.getTask clientId taskId = some task ∧ checkMerged data task = .ok () ∧
      applied.row = PlanTask.touch tick.now task (data.apply task) ∧
      applied.tables =
        t.modifyTask taskId fun row => PlanTask.touch tick.now row (data.apply row) := by
  simp only [applyUpdateTask, Outcome.bind_ok] at done
  obtain ⟨task, found, ⟨⟩, ordered, done⟩ := done
  obtain rfl := Except.ok.inj done
  exact ⟨task, getTask_ok.mp found, ordered, rfl, rfl⟩

/-- What a deletion returns. -/
theorem applyDeleteTask_ok {t : Tables} {clientId taskId : Uuid} {applied : Applied PlanTask}
    (done : applyDeleteTask t clientId taskId = .ok applied) :
    t.getTask clientId taskId = some applied.row ∧
      applied.tables = { t with
        planTasks := Table.remove PlanTask.id taskId t.planTasks
        planTaskNotes := Table.remove PlanTaskNote.taskId taskId t.planTaskNotes
        planTaskAssets := Table.remove PlanTaskAsset.taskId taskId t.planTaskAssets } := by
  simp only [applyDeleteTask, Outcome.bind_ok] at done
  obtain ⟨task, found, flushed, sent, done⟩ := done
  obtain ⟨rfl, valid⟩ := flush_ok sent
  obtain rfl := Except.ok.inj done
  exact ⟨getTask_ok.mp found, rfl⟩

/-- What a duplication returns. -/
theorem applyDuplicateTask_ok {tick : Tick} {t : Tables} {clientId taskId createdBy : Uuid}
    {applied : Applied PlanTask}
    (done : applyDuplicateTask tick t clientId taskId createdBy = .ok applied) :
    ∃ source, t.getTask clientId taskId = some source ∧
      applied.tables = { t with
        planTasks := t.planTasks ++ [copyOf tick clientId source createdBy] } := by
  simp only [applyDuplicateTask, Outcome.bind_ok] at done
  obtain ⟨source, found, flushed, sent, done⟩ := done
  obtain ⟨rfl, valid⟩ := flush_ok sent
  obtain rfl := Except.ok.inj done
  exact ⟨source, getTask_ok.mp found, rfl⟩

/-- What adding a note returns. -/
theorem applyAddNote_ok {tick : Tick} {t t' : Tables} {clientId taskId userId : Uuid}
    {data : PlanTaskNoteCreate} {note : PlanTaskNote} {task : PlanTask}
    (done : applyAddNote tick t clientId taskId data userId = .ok (note, task, t')) :
    t' = { t with planTaskNotes := t.planTaskNotes ++ [note] } ∧
      t.getTask clientId taskId = some task ∧
      note = ⟨tick.rowId, task.id, some userId, data.body.val, tick.now⟩ := by
  simp only [applyAddNote, Outcome.bind_ok] at done
  obtain ⟨source, found, flushed, sent, done⟩ := done
  obtain ⟨rfl, valid⟩ := flush_ok sent
  cases Except.ok.inj done
  exact ⟨rfl, getTask_ok.mp found, rfl⟩

end PlanService

namespace ClientService

/-- What a client edit returns. -/
theorem applyUpdateClient_ok {env : Environment} {tick : Tick} {t : Tables} {clientId : Uuid}
    {data : ClientUpdate env} {applied : Applied Client}
    (done : applyUpdateClient env tick t clientId data = .ok applied) :
    ∃ client, t.getClient clientId = some client ∧
      applied.row = Client.touch tick.now client (data.apply client) ∧
      applied.tables =
        { t.modifyClient clientId fun row => Client.touch tick.now row (data.apply row) with
          intelJobs := applied.tables.intelJobs } := by
  unfold applyUpdateClient at done
  split at done
  · cases done
  · next client found =>
    obtain rfl := Except.ok.inj done
    refine ⟨client, found, rfl, ?_⟩
    simp only
    split <;> rfl

/-- A client edit makes one request for a build, or none. -/
theorem applyUpdateClient_jobs {env : Environment} {tick : Tick} {t : Tables} {clientId : Uuid}
    {data : ClientUpdate env} {applied : Applied Client}
    (done : applyUpdateClient env tick t clientId data = .ok applied) :
    applied.tables.intelJobs = t.intelJobs ∨
      ∃ keys, applied.tables.intelJobs =
        JobQueue.enqueue env tick clientId .incremental keys 5 t.intelJobs := by
  unfold applyUpdateClient at done
  split at done
  · cases done
  · obtain rfl := Except.ok.inj done
    simp only
    split
    · exact .inl rfl
    · exact .inr ⟨_, rfl⟩

/-- A client edit writes the client and the job queue. -/
theorem applyUpdateClient_records {env : Environment} {tick : Tick} {t : Tables} {clientId : Uuid}
    {data : ClientUpdate env} {applied : Applied Client}
    (done : applyUpdateClient env tick t clientId data = .ok applied) :
    t.SameRecords applied.tables ∧ applied.tables.planTasks = t.planTasks := by
  obtain ⟨client, -, -, tables⟩ := applyUpdateClient_ok done
  exact ⟨.of_eq tables ⟨rfl, rfl⟩, by rw [tables]; rfl⟩

end ClientService

namespace OnboardingService

/-- A brand edit writes the client and the job queue. -/
theorem applyUpdateBrand_records (env : Environment) (tick : Tick) (t : Tables) (client : Client)
    (data : BrandUpdate) :
    t.SameRecords (applyUpdateBrand env tick t client data).tables ∧
      (applyUpdateBrand env tick t client data).tables.planTasks = t.planTasks :=
  ⟨⟨rfl, rfl⟩, rfl⟩

end OnboardingService

namespace UserService

/-- What a user edit returns. -/
theorem applyUpdateUser_ok {tick : Tick} {t : Tables} {userId : Option Uuid}
    {data : UserUpdate} {applied : Applied User}
    (done : applyUpdateUser tick t userId data = .ok applied) :
    ∃ user, userId.bind t.getUser = some user ∧
      applied.row = User.touch tick.now user (data.apply user) ∧
      applied.tables =
        t.modifyUser user.id fun row => User.touch tick.now row (data.apply row) := by
  unfold applyUpdateUser at done
  split at done
  · cases done
  · next user found =>
    obtain rfl := Except.ok.inj done
    exact ⟨user, found, rfl, rfl⟩

/-- A user edit writes the user. -/
theorem applyUpdateUser_records {tick : Tick} {t : Tables} {userId : Option Uuid}
    {data : UserUpdate} {applied : Applied User}
    (done : applyUpdateUser tick t userId data = .ok applied) :
    t.SameRecords applied.tables ∧ applied.tables.planTasks = t.planTasks := by
  obtain ⟨user, -, -, tables⟩ := applyUpdateUser_ok done
  exact ⟨.of_eq tables ⟨rfl, rfl⟩, by rw [tables]; rfl⟩

end UserService

namespace AssignmentService

/-- An assignment that was found is a row of the table, under its pair. -/
theorem getAssignment_ok {t : Tables} {clientId userId : Uuid} {row : ClientAssignment} :
    getAssignment t clientId userId = .ok row ↔ t.getAssignment clientId userId = some row := by
  unfold getAssignment
  cases t.getAssignment clientId userId <;> simp [notFound]

/-- An assignment adds one row. -/
theorem applyAssign_ok {tick : Tick} {t t' : Tables} {clientId userId assignedBy : Uuid}
    {capabilities : Option (List ClientCapability)} {row : ClientAssignment}
    (done : applyAssign tick t clientId userId assignedBy capabilities = .ok (row, t')) :
    t' = { t with assignments := t.assignments ++ [row] } ∧
      row = ⟨tick.rowId, clientId, userId, some assignedBy, sortedCaps capabilities, tick.now⟩ := by
  unfold applyAssign at done
  split at done
  · cases done
  split at done
  · cases done
  split at done
  · cases done
  simp only [Outcome.bind_ok] at done
  obtain ⟨flushed, sent, done⟩ := done
  obtain ⟨rfl, -⟩ := flush_ok sent
  cases Except.ok.inj done
  exact ⟨rfl, rfl⟩

/-- Only a user without an assignment is assigned. -/
theorem applyAssign_free {tick : Tick} {t : Tables} {clientId userId assignedBy : Uuid}
    {capabilities : Option (List ClientCapability)} {result : ClientAssignment × Tables}
    (done : applyAssign tick t clientId userId assignedBy capabilities = .ok result) :
    t.getAssignment clientId userId = none := by
  unfold applyAssign at done
  split at done
  · cases done
  split at done
  · cases done
  split at done
  · cases done
  · next free => simpa using free

/-- Only an assignment that is there is given capabilities. -/
theorem applySetCapabilities_found {t : Tables} {clientId userId : Uuid}
    {capabilities : List ClientCapability} {result : ClientAssignment × Tables}
    (done : applySetCapabilities t clientId userId capabilities = .ok result) :
    ∃ row, t.getAssignment clientId userId = some row := by
  simp only [applySetCapabilities, Outcome.bind_ok] at done
  obtain ⟨row, found, -⟩ := done
  exact ⟨row, getAssignment_ok.mp found⟩

/-- Only an assignment that is there is removed. -/
theorem applyUnassign_found {t t' : Tables} {clientId userId : Uuid}
    (done : applyUnassign t clientId userId = .ok t') :
    ∃ row, t.getAssignment clientId userId = some row := by
  simp only [applyUnassign, Outcome.bind_ok] at done
  obtain ⟨row, found, -⟩ := done
  exact ⟨row, getAssignment_ok.mp found⟩

/-- A change of capabilities writes one assignment. -/
theorem applySetCapabilities_ok {t t' : Tables} {clientId userId : Uuid}
    {capabilities : List ClientCapability} {row : ClientAssignment}
    (done : applySetCapabilities t clientId userId capabilities = .ok (row, t')) :
    t' = { t with
      assignments := Table.modify ClientAssignment.pair (clientId, userId)
        (fun row => { row with capabilities := sortedCaps (some capabilities) })
        t.assignments } := by
  simp only [applySetCapabilities, Outcome.bind_ok] at done
  obtain ⟨found, -, flushed, sent, done⟩ := done
  obtain ⟨rfl, -⟩ := flush_ok sent
  cases Except.ok.inj done
  rfl

/-- An unassignment deletes one assignment. -/
theorem applyUnassign_ok {t t' : Tables} {clientId userId : Uuid}
    (done : applyUnassign t clientId userId = .ok t') :
    t' = { t with
      assignments := Table.remove ClientAssignment.pair (clientId, userId) t.assignments } := by
  simp only [applyUnassign, Outcome.bind_ok] at done
  obtain ⟨found, -, sent⟩ := done
  exact (flush_ok sent).1

end AssignmentService

/-- How an operation was executed: one case for each write the dispatcher can replay, with the
arguments it decoded from the payload. -/
inductive Replayed (env : Environment) (tick : Tick) (t : Tables) (clientId : Uuid)
    (op : ProposedOperation) : Executed → Prop where
  | createTask (document : Json) (data : PlanTaskCreate) (createdBy : Uuid)
      (applied : Applied PlanTask) (entity : op.entityType = "plan_task")
      (kind : op.operationType = .create)
      (direct : ((op.payload.getD []).lookup "source_task_id").isSome = false)
      (stored : Payload.get (op.payload.getD []) "data" = .ok document)
      (decoded : PlanTaskCreate.decode document = .ok data)
      (done : PlanService.applyCreateTask tick t clientId data createdBy = .ok applied) :
      Replayed env tick t clientId op
        (ProposalService.executed op (fun task => some task.id) PlanTask.title applied)
  | duplicateTask (source createdBy : Uuid) (applied : Applied PlanTask)
      (entity : op.entityType = "plan_task")
      (done : PlanService.applyDuplicateTask tick t clientId source createdBy = .ok applied) :
      Replayed env tick t clientId op
        (ProposalService.executed op (fun task => some task.id) PlanTask.title applied)
  | updateTask (document : Json) (data : PlanTaskUpdate) (taskId : Uuid)
      (applied : Applied PlanTask) (entity : op.entityType = "plan_task")
      (kind : op.operationType = .update)
      (stored : Payload.get (op.payload.getD []) "data" = .ok document)
      (decoded : PlanTaskUpdate.decode document = .ok data) (target : op.entityId = some taskId)
      (done : PlanService.applyUpdateTask tick t clientId taskId data = .ok applied) :
      Replayed env tick t clientId op
        (ProposalService.executed op (fun task => some task.id) PlanTask.title applied)
  | deleteTask (taskId : Uuid) (applied : Applied PlanTask) (entity : op.entityType = "plan_task")
      (done : PlanService.applyDeleteTask t clientId taskId = .ok applied) :
      Replayed env tick t clientId op
        (ProposalService.executed op (fun _ => op.entityId) PlanTask.title applied)
  | addNote (taskId userId : Uuid) (data : PlanTaskNoteCreate) (note : PlanTaskNote)
      (task : PlanTask) (t' : Tables) (entity : op.entityType = "plan_task_note")
      (done : PlanService.applyAddNote tick t clientId taskId data userId = .ok (note, task, t')) :
      Replayed env tick t clientId op ⟨op, some note.id, task.title, t'⟩
  | assign (userId assignedBy : Uuid) (caps : Option (List ClientCapability))
      (row : ClientAssignment) (t' : Tables) (entity : op.entityType = "client_assignment")
      (done : AssignmentService.applyAssign tick t clientId userId assignedBy caps =
        .ok (row, t')) :
      Replayed env tick t clientId op ⟨op, some row.id, none, t'⟩
  | setCapabilities (userId : Uuid) (caps : List ClientCapability) (row : ClientAssignment)
      (t' : Tables) (entity : op.entityType = "client_assignment")
      (done : AssignmentService.applySetCapabilities t clientId userId caps = .ok (row, t')) :
      Replayed env tick t clientId op ⟨op, some row.id, none, t'⟩
  | unassign (userId : Uuid) (t' : Tables) (entity : op.entityType = "client_assignment")
      (done : AssignmentService.applyUnassign t clientId userId = .ok t') :
      Replayed env tick t clientId op ⟨op, op.entityId, none, t'⟩
  | updateClient (data : ClientUpdate env) (applied : Applied Client)
      (entity : op.entityType = "client")
      (done : ClientService.applyUpdateClient env tick t clientId data = .ok applied) :
      Replayed env tick t clientId op
        (ProposalService.executed op (fun client => some client.id) Client.name applied)
  | updateBrand (client : Client) (data : BrandUpdate) (entity : op.entityType = "client_brand") :
      Replayed env tick t clientId op
        (ProposalService.executed op (fun client => some client.id) Client.name
          (OnboardingService.applyUpdateBrand env tick t client data))
  | updateUser (data : UserUpdate) (applied : Applied User) (entity : op.entityType = "user")
      (done : UserService.applyUpdateUser tick t op.entityId data = .ok applied) :
      Replayed env tick t clientId op
        (ProposalService.executed op (fun user => some user.id) (fun user => some user.email)
          applied)

namespace ProposalService

variable {env : Environment} {tick : Tick} {t : Tables} {clientId : Uuid} {op : ProposedOperation}
  {result : Executed}

/-- An entity identifier that was required is there. -/
theorem requireEntityId_ok {message : String} {entityId : Uuid}
    (found : requireEntityId op message = .ok entityId) : op.entityId = some entityId := by
  unfold requireEntityId at found
  split at found
  · cases found
  · next entityId stored => rw [stored, Except.ok.inj found]

/-- How a task-board operation was executed. -/
theorem executePlanTask_replayed (entity : op.entityType = "plan_task")
    (done : executePlanTask tick t clientId op (op.payload.getD []) = .ok result) :
    Replayed env tick t clientId op result := by
  unfold executePlanTask at done
  cases kind : op.operationType with
  | create =>
    simp only [kind] at done
    by_cases copied : ((op.payload.getD []).lookup "source_task_id").isSome = true
    · simp only [copied, ↓reduceIte, Outcome.bind_ok] at done
      obtain ⟨source, -, createdBy, -, applied, made, done⟩ := done
      obtain rfl := Except.ok.inj done
      exact .duplicateTask source createdBy applied entity made
    · simp only [copied, Bool.false_eq_true, ↓reduceIte, Outcome.bind_ok] at done
      obtain ⟨document, stored, data, decoded, createdBy, -, applied, made, done⟩ := done
      obtain rfl := Except.ok.inj done
      exact .createTask document data createdBy applied entity kind
        ((Bool.not_eq_true _).mp copied) stored decoded made
  | update =>
    simp only [kind, Outcome.bind_ok] at done
    obtain ⟨document, stored, data, decoded, taskId, target, applied, made, done⟩ := done
    obtain rfl := Except.ok.inj done
    exact .updateTask document data taskId applied entity kind stored decoded
      (requireEntityId_ok target) made
  | delete =>
    simp only [kind, Outcome.bind_ok] at done
    obtain ⟨taskId, -, applied, made, done⟩ := done
    obtain rfl := Except.ok.inj done
    exact .deleteTask taskId applied entity made
  | assign => simp [kind, badRequest] at done
  | unassign => simp [kind, badRequest] at done

/-- How an assignment operation was executed. -/
theorem executeAssignment_replayed (entity : op.entityType = "client_assignment")
    (done : executeAssignment tick t clientId op (op.payload.getD []) = .ok result) :
    Replayed env tick t clientId op result := by
  simp only [executeAssignment, Outcome.bind_ok] at done
  obtain ⟨userId, -, done⟩ := done
  cases kind : op.operationType with
  | create => simp [kind, badRequest] at done
  | delete => simp [kind, badRequest] at done
  | assign =>
    simp only [kind, Outcome.bind_ok] at done
    obtain ⟨caps, -, assignedBy, -, ⟨row, t'⟩, made, done⟩ := done
    obtain rfl := Except.ok.inj done
    exact .assign userId assignedBy caps row t' entity made
  | update =>
    simp only [kind, Outcome.bind_ok] at done
    obtain ⟨stored, -, caps, -, ⟨row, t'⟩, made, done⟩ := done
    obtain rfl := Except.ok.inj done
    exact .setCapabilities userId caps row t' entity made
  | unassign =>
    simp only [kind, Outcome.bind_ok] at done
    obtain ⟨t', made, done⟩ := done
    obtain rfl := Except.ok.inj done
    exact .unassign userId t' entity made

/-- The inversion of the dispatcher: an operation that was executed was executed by one of the
writes. -/
theorem executeOperation_replayed
    (done : executeOperation env tick t clientId op = .ok result) :
    Replayed env tick t clientId op result := by
  unfold executeOperation at done
  split at done
  · next entity => exact executePlanTask_replayed entity done
  · next entity =>
    simp only [Outcome.bind_ok] at done
    obtain ⟨taskId, -, document, -, data, -, userId, -, ⟨note, task, t'⟩, made, done⟩ := done
    obtain rfl := Except.ok.inj done
    exact .addNote taskId userId data note task t' entity made
  · next entity => exact executeAssignment_replayed entity done
  · next entity =>
    simp only [Outcome.bind_ok] at done
    obtain ⟨document, -, data, -, applied, made, done⟩ := done
    obtain rfl := Except.ok.inj done
    exact .updateClient data applied entity made
  · next entity =>
    split at done
    · cases done
    · next client found =>
      simp only [Outcome.bind_ok] at done
      obtain ⟨document, -, data, -, done⟩ := done
      obtain rfl := Except.ok.inj done
      exact .updateBrand client data entity
  · next entity =>
    simp only [Outcome.bind_ok] at done
    obtain ⟨document, -, data, -, applied, made, done⟩ := done
    obtain rfl := Except.ok.inj done
    exact .updateUser data applied entity made
  · simp [badRequest] at done

/-- An executed operation leaves the audit trail and the proposals alone. -/
theorem executeOperation_records (done : executeOperation env tick t clientId op = .ok result) :
    t.SameRecords result.tables := by
  cases executeOperation_replayed done with
  | createTask _ _ _ applied _ _ _ _ _ made =>
    obtain ⟨-, tables, -⟩ := PlanService.applyCreateTask_ok made
    exact .of_eq tables ⟨rfl, rfl⟩
  | duplicateTask _ _ applied _ made =>
    obtain ⟨_, -, tables⟩ := PlanService.applyDuplicateTask_ok made
    exact .of_eq tables ⟨rfl, rfl⟩
  | updateTask _ _ _ applied _ _ _ _ _ made =>
    obtain ⟨_, -, -, -, tables⟩ := PlanService.applyUpdateTask_ok made
    exact .of_eq tables ⟨rfl, rfl⟩
  | deleteTask _ applied _ made =>
    exact .of_eq (PlanService.applyDeleteTask_ok made).2 ⟨rfl, rfl⟩
  | addNote _ _ _ _ _ _ _ made => exact .of_eq (PlanService.applyAddNote_ok made).1 ⟨rfl, rfl⟩
  | assign _ _ _ _ _ _ made => exact .of_eq (AssignmentService.applyAssign_ok made).1 ⟨rfl, rfl⟩
  | setCapabilities _ _ _ _ _ made =>
    exact .of_eq (AssignmentService.applySetCapabilities_ok made) ⟨rfl, rfl⟩
  | unassign _ _ _ made => exact .of_eq (AssignmentService.applyUnassign_ok made) ⟨rfl, rfl⟩
  | updateClient _ _ _ made => exact (ClientService.applyUpdateClient_records made).1
  | updateBrand client data _ =>
    exact (OnboardingService.applyUpdateBrand_records env tick t client data).1
  | updateUser _ _ _ made => exact (UserService.applyUpdateUser_records made).1

/-- The executor changes nothing of the operation but its diff. -/
theorem executeOperation_operation
    (done : executeOperation env tick t clientId op = .ok result) :
    ∃ changes, result.operation = { op with fieldChanges := changes } := by
  cases executeOperation_replayed done <;> exact ⟨_, rfl⟩

/-- A flush of an operation changes nothing a session sees. -/
theorem flushOperation_ok {flushed : Tables} (sent : flushOperation op t = .ok flushed) :
    flushed = t ∧ t.Consistent ∧ fits 200 op.entityLabel = true := by
  unfold flushOperation at sent
  split at sent
  · next short => exact ⟨(flush_ok sent).1, (flush_ok sent).2, short⟩
  · cases sent

/-- One turn of the loop: the operation row keeps its place and is marked executed, its audit
row is appended, and the tables meet every constraint. -/
theorem executeAndRecord_ok {user : User} {proposalId : Uuid} {marked : ProposedOperation}
    {t' : Tables}
    (done : executeAndRecord env tick user clientId proposalId t op = .ok (marked, t')) :
    marked.seq = op.seq ∧ marked.status = .executed ∧
      t'.auditLog = t.auditLog ++ [auditRow tick user clientId proposalId marked] ∧
      t'.proposals = t.proposals ∧ t'.Consistent := by
  simp only [executeAndRecord, Outcome.bind_ok] at done
  obtain ⟨result, executed, flushed, sent, done⟩ := done
  obtain ⟨rfl, valid, -⟩ := flushOperation_ok sent
  cases Except.ok.inj done
  obtain ⟨changes, kept⟩ := executeOperation_operation executed
  obtain ⟨audit, proposals⟩ := executeOperation_records executed
  refine ⟨by simp [markExecuted, kept], rfl, ?_, proposals, valid⟩
  simp only [audit]

end ProposalService

end MarketingOS
