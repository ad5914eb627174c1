import MarketingOS.Base.Machine
import MarketingOS.Services.PlanGeneration
import MarketingOS.Verif.Approval

/-! # Task ranges

Every call that writes the days or the clock times of a task, as one machine over the committed
database, and when a run of it keeps every range in order. The days go wrong through the one call
that writes an edge without a check, the times through offsets, which the checks compare and the
columns do not hold. -/
namespace MarketingOS

/-- Whether both times are there and the first clock reading comes after the second. -/
def clocksInverted : Option Time → Option Time → Bool
  | some start, some finish => decide (finish.micros < start.micros)
  | _, _ => false

/-- A single day is not inverted. -/
theorem single_day (day : Date) : datesInverted (some day) (some day) = false :=
  decide_eq_false (Date.not_lt.mpr (Date.le_refl day))

/-- Two times that both have an offset have clock readings in order. -/
def offsetsKeepOrder : Option Time → Option Time → Bool
  | some start, some finish =>
    start.offset.isNone || finish.offset.isNone || decide (start.micros ≤ finish.micros)
  | _, _ => true

/-- Times that pass the check have clock readings in order, unless both have an offset. -/
theorem clocks_of_times {start finish : Option Time}
    (ordered : timesInverted start finish = some false) (keeps : offsetsKeepOrder start finish) :
    clocksInverted start finish = false := by
  cases start with
  | none => rfl
  | some start =>
    cases finish with
    | none => rfl
    | some finish =>
      simp only [timesInverted, Time.gt] at ordered
      simp only [offsetsKeepOrder, Bool.or_eq_true, Option.isNone_iff_eq_none,
        decide_eq_true_eq] at keeps
      simp only [clocksInverted, decide_eq_false_iff_not, Nat.not_lt]
      split at ordered
      · simpa using ordered
      · next first second =>
        obtain (absent | absent) | inOrder := keeps
        · simp [first] at absent
        · simp [second] at absent
        · exact inOrder
      · cases ordered

/-- Clock readings in order are times in order once the row holds them. -/
theorem times_of_clocks {start finish : Option Time} (ordered : clocksInverted start finish = false)
    (startStored : start.map Time.stored = start) (finishStored : finish.map Time.stored = finish) :
    timesInverted start finish = some false := by
  cases start with
  | none => rfl
  | some start =>
    cases finish with
    | none => rfl
    | some finish =>
      rw [Option.map_some, Option.some.injEq] at startStored finishStored
      rw [← startStored, ← finishStored]
      simp only [timesInverted, Time.gt, Time.stored, Option.some.injEq]
      exact ordered

/-- The columns of a task's ranges. -/
def PlanTask.ranges (task : PlanTask) : Option Date × Option Date × Option Time × Option Time :=
  (task.startDate, task.dueDate, task.startTime, task.endTime)

/-- Neither range of a task is inverted; the times are read off the clock. -/
def PlanTask.Ordered (task : PlanTask) : Prop :=
  datesInverted task.startDate task.dueDate = false ∧
    clocksInverted task.startTime task.endTime = false

/-- A task with the ranges of an ordered one is ordered. -/
theorem PlanTask.Ordered.of_ranges {task other : PlanTask} (ordered : other.Ordered)
    (same : task.ranges = other.ranges) : task.Ordered := by
  simp only [PlanTask.ranges, Prod.mk.injEq] at same
  obtain ⟨start, due, first, last⟩ := same
  rw [PlanTask.Ordered, start, due, first, last]
  exact ordered

/-- Storing a task keeps its ranges in order. -/
theorem PlanTask.Ordered.stored {task : PlanTask} (ordered : task.Ordered) :
    task.stored.Ordered := by
  obtain ⟨dates, clocks⟩ := ordered
  refine ⟨dates, ?_⟩
  unfold PlanTask.stored
  dsimp only
  cases first : task.startTime with
  | none => rfl
  | some start =>
    cases last : task.endTime with
    | none => rfl
    | some finish =>
      rw [first, last] at clocks
      exact clocks

/-- No task of the tables has an inverted range. -/
def Ranged (t : Tables) : Prop := ∀ task ∈ t.planTasks, task.Ordered

namespace Ranged

variable {t : Tables}

/-- Tables with the same tasks have the same ranges. -/
theorem of_same {t' : Tables} (ranged : Ranged t) (same : t'.planTasks = t.planTasks) :
    Ranged t' := by
  intro task inside
  rw [same] at inside
  exact ranged task inside

/-- A new ordered task keeps the ranges. -/
theorem append {task : PlanTask} (ranged : Ranged t) (ordered : task.Ordered) :
    Ranged { t with planTasks := t.planTasks ++ [task] } := by
  intro row inside
  obtain old | new := List.mem_append.mp inside
  · exact ranged row old
  · rw [List.mem_singleton.mp new]
    exact ordered

/-- A write that keeps every range keeps the tables ranged. -/
theorem modify_of_keeps {taskId : Uuid} {change : PlanTask → PlanTask} (ranged : Ranged t)
    (keeps : ∀ row, (change row).ranges = row.ranges) : Ranged (t.modifyTask taskId change) := by
  intro row inside
  obtain ⟨old, -⟩ | ⟨old, member, -, rfl⟩ := Table.mem_modify.mp inside
  · exact ranged row old
  · exact (ranged old member).of_ranges (keeps old)

/-- A write to the task that was looked up keeps the tables ranged when it leaves that task
ordered. -/
theorem modify_found {clientId taskId : Uuid} {task : PlanTask} {change : PlanTask → PlanTask}
    (ranged : Ranged t) (valid : t.Consistent) (found : t.getTask clientId taskId = some task)
    (ordered : (change task).Ordered) : Ranged (t.modifyTask taskId change) := by
  intro row inside
  obtain ⟨old, -⟩ | ⟨old, member, same, rfl⟩ := Table.mem_modify.mp inside
  · exact ranged row old
  · have key : task.id = taskId := congrArg Prod.fst (Table.get_key found)
    have unique : old = task :=
      List.inj_on_of_nodup_map valid.2.2.2.2.2.1 member (Table.get_mem found) (same.trans key.symm)
    rw [unique]
    exact ordered

/-- Storing keeps the tables ranged. -/
theorem stored (ranged : Ranged t) : Ranged t.stored := by
  intro row inside
  obtain ⟨task, member, rfl⟩ := List.mem_map.mp inside
  exact (ranged task member).stored

/-- A commit keeps the tables ranged. -/
theorem commit {db : Database} (ranged : Ranged t) (committed : MarketingOS.commit t = .ok db) :
    Ranged db.tables := by
  rw [commit_ok committed]
  exact ranged.stored

end Ranged

/-- A touched row has the ranges of the row it was made from. -/
theorem PlanTask.ranges_touch (now : Timestamp) (before after : PlanTask) :
    (PlanTask.touch now before after).ranges = after.ranges := by
  unfold PlanTask.touch
  split
  · next same => rw [same]
  · rfl

/-! ## Writes of the task board -/

namespace PlanService

variable {tick : Tick} {t : Tables} {clientId taskId createdBy : Uuid} {applied : Applied PlanTask}

/-- A creation keeps the tables ranged when the offsets of the body keep the clock in order. -/
theorem applyCreateTask_ranged {data : PlanTaskCreate} (ranged : Ranged t)
    (keeps : offsetsKeepOrder data.startTime data.endTime)
    (done : applyCreateTask tick t clientId data createdBy = .ok applied) :
    Ranged applied.tables := by
  obtain ⟨-, tables, -⟩ := applyCreateTask_ok done
  obtain ⟨dates, times⟩ := checkRangesWith_ok.mp data.ranges
  rw [tables]
  exact ranged.append ⟨dates, clocks_of_times times keeps⟩

/-- An update keeps the tables ranged when the offsets of the merged times keep the clock in
order. -/
theorem applyUpdateTask_ranged {data : PlanTaskUpdate} (ranged : Ranged t) (valid : t.Consistent)
    (keeps : (t.getTask clientId taskId).all fun task =>
      offsetsKeepOrder (data.startTime.onto task.startTime) (data.endTime.onto task.endTime))
    (done : applyUpdateTask tick t clientId taskId data = .ok applied) :
    Ranged applied.tables := by
  obtain ⟨task, found, passed, -, tables⟩ := applyUpdateTask_ok done
  obtain ⟨dates, times⟩ := checkRangesWith_ok.mp passed
  rw [found, Option.all_some] at keeps
  have merged : (data.apply task).Ordered := ⟨dates, clocks_of_times times keeps⟩
  rw [tables]
  exact ranged.modify_found valid found (merged.of_ranges (PlanTask.ranges_touch _ _ _))

/-- A duplication keeps the tables ranged. -/
theorem applyDuplicateTask_ranged (ranged : Ranged t)
    (done : applyDuplicateTask tick t clientId taskId createdBy = .ok applied) :
    Ranged applied.tables := by
  obtain ⟨source, found, tables⟩ := applyDuplicateTask_ok done
  rw [tables]
  exact ranged.append ((ranged source (Table.get_mem found)).of_ranges rfl)

/-- A deletion keeps the tables ranged. -/
theorem applyDeleteTask_ranged (ranged : Ranged t)
    (done : applyDeleteTask t clientId taskId = .ok applied) : Ranged applied.tables := by
  rw [(applyDeleteTask_ok done).2]
  exact fun row inside => ranged row (List.mem_filter.mp inside).1

end PlanService

namespace ProposalService

variable {env : Environment}

/-- The offsets of a task operation keep the clock in order: those of a created task, or those
of the task an update is merged into. -/
def keepsClocks (t : Tables) (clientId : Uuid) (op : ProposedOperation) : Bool :=
  let document := Payload.get (op.payload.getD []) "data"
  match op.operationType with
  | .create =>
    match document >>= PlanTaskCreate.decode with
    | .ok data => offsetsKeepOrder data.startTime data.endTime
    | .error _ => true
  | .update =>
    match document >>= PlanTaskUpdate.decode, op.entityId with
    | .ok data, some taskId => (t.getTask clientId taskId).all fun task =>
        offsetsKeepOrder (data.startTime.onto task.startTime) (data.endTime.onto task.endTime)
    | _, _ => true
  | _ => true

/-- An executed operation keeps the tables ranged when its offsets keep the clock in order. -/
theorem executeOperation_ranged {tick : Tick} {t : Tables} {clientId : Uuid}
    {op : ProposedOperation} {result : Executed} (ranged : Ranged t) (valid : t.Consistent)
    (keeps : op.entityType = "plan_task" → keepsClocks t clientId op = true)
    (done : executeOperation env tick t clientId op = .ok result) : Ranged result.tables := by
  cases executeOperation_replayed done with
  | createTask document data createdBy applied entity kind direct stored decoded made =>
    have clocks := keeps entity
    simp only [keepsClocks, kind, stored, Outcome.ok_bind, decoded] at clocks
    exact PlanService.applyCreateTask_ranged ranged clocks made
  | duplicateTask source createdBy applied entity made =>
    exact PlanService.applyDuplicateTask_ranged ranged made
  | updateTask document data taskId applied entity kind stored decoded target made =>
    have clocks := keeps entity
    simp only [keepsClocks, kind, stored, Outcome.ok_bind, decoded, target] at clocks
    exact PlanService.applyUpdateTask_ranged ranged valid clocks made
  | deleteTask taskId applied entity made =>
    exact PlanService.applyDeleteTask_ranged ranged made
  | addNote taskId userId data note task t' entity made =>
    exact ranged.of_same (by rw [(PlanService.applyAddNote_ok made).1])
  | assign userId assignedBy caps row t' entity made =>
    exact ranged.of_same (by rw [(AssignmentService.applyAssign_ok made).1])
  | setCapabilities userId caps row t' entity made =>
    exact ranged.of_same (by rw [AssignmentService.applySetCapabilities_ok made])
  | unassign userId t' entity made =>
    exact ranged.of_same (by rw [AssignmentService.applyUnassign_ok made])
  | updateClient data applied entity made =>
    exact ranged.of_same (ClientService.applyUpdateClient_records made).2
  | updateBrand client data entity =>
    exact ranged.of_same (OnboardingService.applyUpdateBrand_records env tick t client data).2
  | updateUser data applied entity made =>
    exact ranged.of_same (UserService.applyUpdateUser_records made).2

/-- The offsets of every task operation keep the clock in order, each on the tables it meets. -/
def KeepsClocks (env : Environment) (ticks : Nat → Tick) (user : User)
    (clientId proposalId : Uuid) : Tables → List ProposedOperation → Prop
  | _, [] => True
  | t, op :: rest =>
    (op.entityType = "plan_task" → keepsClocks t clientId op = true) ∧
      match executeAndRecord env (ticks op.seq) user clientId proposalId t op with
      | .error _ => True
      | .ok (_, t) => KeepsClocks env ticks user clientId proposalId t rest

/-- Executed operations keep the tables ranged when their offsets keep the clock in order. -/
theorem executeAll_ranged {ticks : Nat → Tick} {user : User} {clientId proposalId : Uuid}
    {t t' : Tables} {operations executed : List ProposedOperation} (ranged : Ranged t)
    (valid : t.Consistent) (keeps : KeepsClocks env ticks user clientId proposalId t operations)
    (finished : executeAll env ticks user clientId proposalId t operations =
      .finished executed t') : Ranged t' := by
  induction operations generalizing t executed with
  | nil =>
    simp only [executeAll, LoopEnd.finished.injEq] at finished
    exact finished.2 ▸ ranged
  | cons op rest ih =>
    obtain ⟨clocks, later⟩ := keeps
    simp only [executeAll] at finished
    cases turn : executeAndRecord env (ticks op.seq) user clientId proposalId t op with
    | error exc => cases exc <;> simp [turn] at finished
    | ok result =>
      obtain ⟨marked, middle⟩ := result
      simp only [turn] at finished later
      have consistent := (executeAndRecord_ok turn).2.2.2.2
      simp only [executeAndRecord, Outcome.bind_ok] at turn
      obtain ⟨result, done, flushed, sent, turn⟩ := turn
      obtain ⟨rfl, -, -⟩ := flushOperation_ok sent
      cases Except.ok.inj turn
      have between : Ranged { result.tables with
          auditLog := result.tables.auditLog ++
            [auditRow (ticks op.seq) user clientId proposalId (markExecuted result)] } :=
        (executeOperation_ranged ranged valid clocks done).of_same rfl
      cases ended : executeAll env ticks user clientId proposalId { result.tables with
          auditLog := result.tables.auditLog ++
            [auditRow (ticks op.seq) user clientId proposalId (markExecuted result)] } rest with
      | refused => simp [ended] at finished
      | raised => simp [ended] at finished
      | finished done last =>
        simp only [ended, LoopEnd.finished.injEq] at finished
        obtain ⟨-, rfl⟩ := finished
        exact ih between consistent later ended

/-- Creating a proposal leaves the tasks alone. -/
theorem createProposal_planTasks {tick : Tick} {db db' : Database} {clientId : Uuid}
    {chatId messageId : Option Uuid} {createdBy : Uuid} {rawRequest summary : String}
    {operations : List StagedOperation} {ttlMinutes : Int} {proposal : ChangeProposal}
    (created : createProposal tick db clientId chatId messageId createdBy rawRequest summary
      operations ttlMinutes = .ok (proposal, db')) :
    db'.tables.planTasks = db.tables.planTasks := by
  unfold createProposal at created
  split at created
  · cases created
  dsimp only at created
  split at created
  · simp only [Outcome.bind_ok] at created
    obtain ⟨committed, stored, created⟩ := created
    cases Except.ok.inj created
    exact (congrArg Tables.planTasks (commit_ok stored)).trans db.tasks_stored
  · cases created

/-- What validating and executing a proposal commits of the tasks: what was there, or what its
finished loop wrote. -/
theorem validateAndExecute_planTasks (env : Environment) (ticks : Nat → Tick) (now : Timestamp)
    (user : User) (proposal : ChangeProposal) (db : Database) :
    (validateAndExecute env ticks now user proposal db).2.tables.planTasks = db.tables.planTasks ∨
      ∃ executed t, executeAll env ticks user proposal.clientId proposal.id db.tables
          proposal.operations = .finished executed t ∧
        (validateAndExecute env ticks now user proposal db).2.tables.planTasks =
          t.stored.planTasks := by
  unfold validateAndExecute
  split
  · exact .inl rfl
  · exact .inl rfl
  · split
    · exact .inl rfl
    · exact .inl rfl
    · next executed t finished =>
      split
      · exact .inl rfl
      · next after committed =>
        refine .inr ⟨executed, t, finished, ?_⟩
        rw [commit_ok committed]
        rfl

/-- What an approval commits of the tasks: what was there, or what its finished loop wrote. -/
theorem approve_planTasks (env : Environment) (ticks : Nat → Tick) (now : Timestamp) (user : User)
    (clientId proposalId : Uuid) (db : Database) :
    (approve env ticks now user clientId proposalId db).2.tables.planTasks = db.tables.planTasks ∨
      ∃ proposal executed t, db.tables.getProposal clientId proposalId = some proposal ∧
        executeAll env ticks user clientId proposalId (claimForExecution proposalId db).2.tables
          proposal.operations = .finished executed t ∧
        (approve env ticks now user clientId proposalId db).2.tables.planTasks =
          t.stored.planTasks := by
  unfold approve
  split
  · exact .inl rfl
  · next read entry =>
    simp only [Outcome.bind_ok] at entry
    obtain ⟨-, -, lookup⟩ := entry
    unfold getProposal at lookup
    split at lookup
    · cases lookup
    · next stored found =>
      by_cases missed : (claimForExecution proposalId db).1 = 0
      · simp only [missed, ↓reduceIte]
        exact .inl rfl
      · simp only [missed, ↓reduceIte]
        split
        · exact .inl rfl
        · next claimed reread =>
          have same : claimed.operations = stored.operations ∧ claimed.clientId = clientId ∧
              claimed.id = proposalId := by
            have swapped := getProposal_claim found
            have there :
                (claimForExecution proposalId db).2.tables.getProposal clientId proposalId =
                  some claimed := by
              unfold getProposal at reread
              split at reread
              · cases reread
              · next again => rw [again, Except.ok.inj reread]
            refine ⟨?_, Tables.getProposal_clientId there, Tables.getProposal_id there⟩
            obtain rfl := Option.some.inj (there.symm.trans swapped)
            split <;> rfl
          obtain ⟨operations, client, identifier⟩ := same
          obtain kept | ⟨executed, t, finished, wrote⟩ := validateAndExecute_planTasks env ticks now
            user claimed (claimForExecution proposalId db).2
          · exact .inl kept
          · rw [client, identifier, operations] at finished
            exact .inr ⟨stored, executed, t, found, finished, wrote⟩

end ProposalService

/-! ## The machine of the task board -/

namespace TaskBoard

/-- One call that writes tasks, with what it reads from outside. -/
inductive Label where
  | createTask (tick : Tick) (clientId : Uuid) (data : PlanTaskCreate) (createdBy : Uuid)
  | updateTask (tick : Tick) (clientId taskId : Uuid) (data : PlanTaskUpdate)
  | deleteTask (clientId taskId : Uuid)
  | duplicateTask (tick : Tick) (clientId taskId createdBy : Uuid)
  | createProposal (tick : Tick) (clientId : Uuid) (chatId messageId : Option Uuid)
      (createdBy : Uuid) (rawRequest summary : String) (operations : List StagedOperation)
      (ttlMinutes : Int)
  | approve (ticks : Nat → Tick) (now : Timestamp) (user : User) (clientId proposalId : Uuid)
  | proposeRange (now : Timestamp) (clientId : Uuid) (startDate endDate : Date)
      (createdBy assigneeId : Option Uuid)
      (drafts : List (PlanGenerationService.FreshItem × ProposedItem))
  | assign (now : Timestamp) (clientId taskId : Uuid) (data : PlanGenerationAssign) (actor : Uuid)
  | reject (now : Timestamp) (clientId taskId : Uuid) (data : PlanGenerationReject) (actor : Uuid)
  | approveBatch (clientId : Uuid) (taskIds : List Uuid) (actor : Uuid)
  | rejectBatch (now : Timestamp) (clientId : Uuid) (taskIds : List Uuid) (reason : String)
      (actor : Uuid)
  | regenerateItem (now : Timestamp) (clientId taskId : Uuid) (data : PlanGenerationRegenerate)
      (item : ProposedItem) (actor : Uuid)

/-- The committed state after a call that commits or raises. -/
def settle (db : Database) : Outcome Database → Database
  | .ok after => after
  | .error _ => db

/-- The committed state after one call. -/
def perform (env : Environment) (db : Database) : Label → Database
  | .createTask tick clientId data createdBy =>
    settle db (PlanService.createTask tick db clientId data createdBy)
  | .updateTask tick clientId taskId data =>
    settle db (PlanService.updateTask tick db clientId taskId data)
  | .deleteTask clientId taskId => settle db (PlanService.deleteTask db clientId taskId)
  | .duplicateTask tick clientId taskId createdBy =>
    settle db (PlanService.duplicateTask tick db clientId taskId createdBy)
  | .createProposal tick clientId chatId messageId createdBy rawRequest summary operations
      ttlMinutes =>
    settle db ((ProposalService.createProposal tick db clientId chatId messageId createdBy
      rawRequest summary operations ttlMinutes).map Prod.snd)
  | .approve ticks now user clientId proposalId =>
    (ProposalService.approve env ticks now user clientId proposalId db).2
  | .proposeRange now clientId startDate endDate createdBy assigneeId drafts =>
    settle db (PlanGenerationService.proposeRange now db clientId startDate endDate createdBy
      assigneeId drafts)
  | .assign now clientId taskId data actor =>
    settle db (PlanGenerationService.assign now db clientId taskId data actor)
  | .reject now clientId taskId data actor =>
    settle db (PlanGenerationService.reject now db clientId taskId data actor)
  | .approveBatch clientId taskIds actor =>
    settle db (PlanGenerationService.approveBatch db clientId taskIds actor)
  | .rejectBatch now clientId taskIds reason actor =>
    settle db (PlanGenerationService.rejectBatch now db clientId taskIds reason actor)
  | .regenerateItem now clientId taskId data item actor =>
    settle db (PlanGenerationService.regenerateItem now db clientId taskId data item actor)

/-- The machine of the task board, from any state without tasks. -/
def machine (env : Environment) : Machine Database Label where
  start db := db.tables.planTasks = []
  next db label := some (perform env db label)

/-- An assignment sends no due day before the start day the task has, and the offsets of the
times a creation, an update or an approved operation writes keep the clock in order. -/
def KeepsRanges (env : Environment) : Machine.Guard Database Label
  | db, .assign _ clientId taskId data _ =>
    (db.tables.getTask clientId taskId).all fun task =>
      !datesInverted task.startDate data.dueDate
  | _, .createTask _ _ data _ => offsetsKeepOrder data.startTime data.endTime
  | db, .updateTask _ clientId taskId data =>
    (db.tables.getTask clientId taskId).all fun task =>
      offsetsKeepOrder (data.startTime.onto task.startTime) (data.endTime.onto task.endTime)
  | db, .approve ticks _ user clientId proposalId =>
    ∀ proposal, db.tables.getProposal clientId proposalId = some proposal →
      ProposalService.KeepsClocks env ticks user clientId proposalId
        (ProposalService.claimForExecution proposalId db).2.tables proposal.operations
  | _, _ => True

/-- A call that raises commits nothing, so it is enough to look at a commit. -/
theorem settle_ranged {db : Database} {outcome : Outcome Database} (ranged : Ranged db.tables)
    (commits : ∀ after, outcome = .ok after → Ranged after.tables) :
    Ranged (settle db outcome).tables := by
  cases outcome with
  | error exc => exact ranged
  | ok after => exact commits after rfl

/-- A call that writes and then commits keeps the ranges when its write does. -/
theorem commit_ranged {ρ : Type} {written : Outcome ρ} (tables : ρ → Tables) {after : Database}
    (keeps : ∀ result, written = .ok result → Ranged (tables result))
    (done : (written >>= fun result => commit (tables result)) = .ok after) :
    Ranged after.tables := by
  obtain ⟨result, made, committed⟩ := Outcome.bind_ok.mp done
  exact (keeps result made).commit committed

section Review

open PlanGenerationService

variable {t : Tables} {now : Timestamp} {clientId taskId actor : Uuid}

/-- A write to an event leaves the tasks alone. -/
theorem modifyEventOf_planTasks (t : Tables) (task : PlanTask)
    (change : MarketingEvent → MarketingEvent) :
    (modifyEventOf t task change).planTasks = t.planTasks := by
  unfold modifyEventOf
  split <;> rfl

/-- Drafted items are single days without times. -/
theorem addDrafts_ranged {createdBy assigneeId : Option Uuid} {t' : Tables}
    {drafts : List (FreshItem × ProposedItem)} (ranged : Ranged t)
    (done : addDrafts now clientId createdBy assigneeId t drafts = .ok t') : Ranged t' := by
  induction drafts generalizing t with
  | nil => exact Except.ok.inj done ▸ ranged
  | cons draft rest ih =>
    obtain ⟨fresh, item⟩ := draft
    simp only [addDrafts, Outcome.bind_ok] at done
    obtain ⟨withEvent, sent, withTask, sent', done⟩ := done
    obtain ⟨rfl, -⟩ := flush_ok sent
    obtain ⟨rfl, -⟩ := flush_ok sent'
    have single : (draftTask now fresh clientId createdBy assigneeId item).Ordered :=
      ⟨single_day item.eventDate, rfl⟩
    refine ih ?_ done
    exact Ranged.append (ranged.of_same rfl) single

/-- An assignment whose due day does not come before the start day keeps the task ordered. -/
theorem assigned_ordered {data : PlanGenerationAssign} {task : PlanTask} (ordered : task.Ordered)
    (keeps : datesInverted task.startDate data.dueDate = false) :
    (assigned data task).Ordered := by
  refine ⟨?_, ordered.2⟩
  simp only [assigned]
  cases due : data.dueDate with
  | none => exact ordered.1
  | some dueDate =>
    cases start : task.startDate with
    | none => exact single_day dueDate
    | some startDate =>
      rw [start, due] at keeps
      exact keeps

/-- A loop of rejections keeps the ranges. -/
theorem rejectEach_ranged {reason : String} {taskIds : List Uuid} {t' : Tables} (ranged : Ranged t)
    (done : rejectEach now clientId reason actor t taskIds = .ok t') : Ranged t' := by
  induction taskIds generalizing t with
  | nil => exact Except.ok.inj done ▸ ranged
  | cons taskId rest ih =>
    simp only [rejectEach, Outcome.bind_ok] at done
    obtain ⟨task, -, done⟩ := done
    refine ih (Ranged.of_same ?_ (modifyEventOf_planTasks _ _ _)) done
    exact ranged.modify_of_keeps fun row => PlanTask.ranges_touch now row (blocked row)

/-- A loop of approvals keeps the ranges. -/
theorem approveEach_ranged {taskIds : List Uuid} {t' : Tables} (ranged : Ranged t)
    (done : approveEach clientId actor t taskIds = .ok t') : Ranged t' := by
  induction taskIds generalizing t with
  | nil => exact Except.ok.inj done ▸ ranged
  | cons taskId rest ih =>
    simp only [approveEach, Outcome.bind_ok] at done
    obtain ⟨task, -, done⟩ := done
    exact ih (ranged.of_same (modifyEventOf_planTasks _ _ _)) done

end Review

variable {env : Environment}

/-- Every call that meets the guard keeps the ranges. -/
theorem perform_ranged {db : Database} {label : Label} (ranged : Ranged db.tables)
    (meets : KeepsRanges env db label) : Ranged (perform env db label).tables := by
  cases label with
  | createTask tick clientId data createdBy =>
    exact settle_ranged ranged fun after done => commit_ranged _
      (fun applied made => PlanService.applyCreateTask_ranged ranged meets made) done
  | updateTask tick clientId taskId data =>
    exact settle_ranged ranged fun after done => commit_ranged _
      (fun applied made => PlanService.applyUpdateTask_ranged ranged db.consistent meets made) done
  | deleteTask clientId taskId =>
    exact settle_ranged ranged fun after done => commit_ranged _
      (fun applied made => PlanService.applyDeleteTask_ranged ranged made) done
  | duplicateTask tick clientId taskId createdBy =>
    exact settle_ranged ranged fun after done => commit_ranged _
      (fun applied made => PlanService.applyDuplicateTask_ranged ranged made) done
  | createProposal tick clientId chatId messageId createdBy rawRequest summary operations
      ttlMinutes =>
    refine settle_ranged ranged fun after done => ?_
    cases created : ProposalService.createProposal tick db clientId chatId messageId createdBy
      rawRequest summary operations ttlMinutes with
    | error exc => simp [created, Except.map] at done
    | ok result =>
      obtain ⟨proposal, stored⟩ := result
      rw [created] at done
      obtain rfl := Except.ok.inj done
      exact ranged.of_same (ProposalService.createProposal_planTasks created)
  | approve ticks now user clientId proposalId =>
    obtain kept | ⟨proposal, executed, t, found, finished, wrote⟩ :=
      ProposalService.approve_planTasks env ticks now user clientId proposalId db
    · exact ranged.of_same kept
    · have claimed : Ranged (ProposalService.claimForExecution proposalId db).2.tables :=
        ranged.of_same rfl
      exact (ProposalService.executeAll_ranged claimed (Database.consistent _)
        (meets proposal found) finished).stored.of_same wrote
  | proposeRange now clientId startDate endDate createdBy assigneeId drafts =>
    refine settle_ranged ranged fun after done => ?_
    unfold PlanGenerationService.proposeRange at done
    split at done
    · cases done
    · exact commit_ranged id (fun t made => addDrafts_ranged ranged made) done
  | assign now clientId taskId data actor =>
    refine settle_ranged ranged fun after done => ?_
    obtain ⟨task, found, committed⟩ := Outcome.bind_ok.mp done
    have lookup := PlanService.getTask_ok.mp found
    simp only [KeepsRanges, lookup, Option.all_some, Bool.not_eq_true'] at meets
    refine Ranged.commit (Ranged.of_same ?_ (modifyEventOf_planTasks _ _ _)) committed
    have ordered := assigned_ordered (ranged task (Table.get_mem lookup)) meets
    exact ranged.modify_found db.consistent lookup (ordered.of_ranges (PlanTask.ranges_touch _ _ _))
  | reject now clientId taskId data actor =>
    refine settle_ranged ranged fun after done => ?_
    obtain ⟨task, -, committed⟩ := Outcome.bind_ok.mp done
    refine Ranged.commit (Ranged.of_same ?_ (modifyEventOf_planTasks _ _ _)) committed
    exact ranged.modify_of_keeps fun row => PlanTask.ranges_touch now row _
  | approveBatch clientId taskIds actor =>
    exact settle_ranged ranged fun after done => commit_ranged id
      (fun t made => approveEach_ranged ranged made) done
  | rejectBatch now clientId taskIds reason actor =>
    exact settle_ranged ranged fun after done => commit_ranged id
      (fun t made => rejectEach_ranged ranged made) done
  | regenerateItem now clientId taskId data item actor =>
    refine settle_ranged ranged fun after done => ?_
    simp only [PlanGenerationService.regenerateItem, Outcome.bind_ok] at done
    obtain ⟨task, -, done⟩ := done
    split at done
    · cases done
    · refine Ranged.commit (Ranged.of_same ?_ (modifyEventOf_planTasks _ _ _)) done
      exact ranged.modify_of_keeps fun row => PlanTask.ranges_touch now row _

/-- In every state a run leads to whose assignments and offsets keep the ranges, no task has its
start after its end, by the day or by the clock. -/
theorem ranges_in_order (env : Environment) (db : Database)
    (reached : (machine env).Reachable (KeepsRanges env) db) :
    ∀ task ∈ db.tables.planTasks,
      (∀ start due, task.startDate = some start → task.dueDate = some due → start ≤ due) ∧
        ∀ start finish, task.startTime = some start → task.endTime = some finish →
          start.gt finish = some false := by
  have ranged : Ranged db.tables := by
    apply reached.invariant fun db => Ranged db.tables
    · intro db empty task inside
      rw [show db.tables.planTasks = [] from empty] at inside
      cases inside
    · intro db label after before meets taken
      obtain rfl := Option.some.inj taken
      exact perform_ranged before meets
  intro task inside
  obtain ⟨dates, clocks⟩ := ranged task inside
  have stored := db.task_stored inside
  constructor
  · intro start due first last
    rw [first, last] at dates
    exact Date.not_lt.mp (of_decide_eq_false dates)
  · intro start finish first last
    have times := times_of_clocks clocks (congrArg PlanTask.startTime stored)
      (congrArg PlanTask.endTime stored)
    rwa [first, last] at times

/-- The sample board without its task. -/
def emptyBoard : Database :=
  ⟨{ sampleTables [] with planTasks := [] }, by decide, rfl⟩

/-- A day of January. -/
def january (day : Nat) (real : 1 ≤ day ∧ day ≤ 31 := by decide) : Date :=
  ⟨2026, 1, day, by decide, by decide, real⟩

/-- Create a task from the 10th to the 12th. -/
def sampleCreation : Label :=
  .createTask (sampleTicks 0) 2
    ⟨⟨"Draft", by decide⟩, none, none, .strategy, .todo, .medium, none, some (january 10),
      some (january 12), none, none, by decide⟩ 1

/-- Assign it with another due day. -/
def sampleAssignment (day : Nat) (real : 1 ≤ day ∧ day ≤ 31 := by decide) : Label :=
  .assign 30 2 100 ⟨1, none, some (january day real)⟩ 1

/-- Create a task from ten o'clock two hours east of UTC to nine o'clock UTC. -/
def sampleOffsets : Label :=
  .createTask (sampleTicks 0) 2
    ⟨⟨"Call", by decide⟩, none, none, .strategy, .todo, .medium, none, none, none,
      some ⟨36000000000, some 120, by decide, by simp⟩,
      some ⟨32400000000, some 0, by decide, by simp⟩, by decide⟩ 1

set_option maxRecDepth 4000 in
/-- A task moved to a later due day by its assignment keeps its days in order. -/
theorem later_due_day_keeps_order :
    ∃ db, (machine sampleEnv).Run (KeepsRanges sampleEnv) emptyBoard
        [sampleCreation, sampleAssignment 20] db ∧
      db.tables.planTasks.map PlanTask.dueDate = [some (january 20)] ∧
      ∀ task ∈ db.tables.planTasks, ∀ start due, task.startDate = some start →
        task.dueDate = some due → start ≤ due := by
  have run : (machine sampleEnv).Run (KeepsRanges sampleEnv) emptyBoard
      [sampleCreation, sampleAssignment 20] _ :=
    .cons (by unfold sampleCreation KeepsRanges; decide) rfl
      (.cons (by unfold sampleAssignment KeepsRanges; decide) rfl (.nil _))
  refine ⟨_, run, by decide, fun task inside => ?_⟩
  exact (ranges_in_order sampleEnv _ ⟨emptyBoard, _, rfl, run⟩ task inside).1

set_option maxRecDepth 4000 in
/-- An assignment writes its due day without looking at the start day, and a creation compares
its times as instants and stores their clock readings: each leaves an inverted range. -/
theorem assignment_and_offsets_invert :
    emptyBoard.tables.planTasks = [] ∧
      ((machine sampleEnv).play Machine.anyStep emptyBoard
        [sampleCreation, sampleAssignment 5]).map (fun db =>
          db.tables.planTasks.map fun task => (task.startDate, task.dueDate)) =
        some [(some (january 10), some (january 5))] ∧
      ((machine sampleEnv).play Machine.anyStep emptyBoard [sampleOffsets]).map (fun db =>
          db.tables.planTasks.map fun task => timesInverted task.startTime task.endTime) =
        some [some true] := by
  decide

end TaskBoard

end MarketingOS
