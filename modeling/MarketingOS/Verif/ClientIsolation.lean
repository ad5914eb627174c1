import MarketingOS.Verif.FreshProposal

/-!
# An approval touches its own client only

What a client holds is read from the tables of every client. Each write that a staged operation is
replayed as leaves the holdings of every other client, and the rows of users, assignments and
clients unless an administrator approves it; the loop, the failure paths and the commit then do.
-/
namespace MarketingOS

/-- What one client holds: its row with its brand, who is assigned, its tasks with their notes and
links, its calendar, its builds and its proposals. -/
structure Holdings where
  clients : List Client
  assignments : List ClientAssignment
  planTasks : List PlanTask
  planTaskNotes : List PlanTaskNote
  planTaskAssets : List PlanTaskAsset
  events : List MarketingEvent
  intelJobs : List IntelJob
  proposals : List ChangeProposal

namespace Tables

/-- The tasks of a client. -/
def tasksOf (t : Tables) (clientId : Uuid) : List PlanTask :=
  t.planTasks.filter fun task => task.clientId = clientId

/-- What a client holds. -/
def holdings (t : Tables) (clientId : Uuid) : Holdings where
  clients := t.clients.filter fun client => client.id = clientId
  assignments := t.assignments.filter fun row => row.clientId = clientId
  planTasks := t.tasksOf clientId
  planTaskNotes := t.planTaskNotes.filter fun note =>
    (t.tasksOf clientId).any fun task => task.id = note.taskId
  planTaskAssets := t.planTaskAssets.filter fun link =>
    (t.tasksOf clientId).any fun task => task.id = link.taskId
  events := t.events.filter fun event => event.clientId = clientId
  intelJobs := t.intelJobs.filter fun job => job.clientId = clientId
  proposals := t.proposals.filter fun proposal => proposal.clientId = clientId

/-- Two clients have no build job under one identifier. -/
def JobsApart (clientId other : Uuid) (jobs : List IntelJob) : Prop :=
  ∀ job ∈ jobs, job.clientId = clientId → ∀ foreign ∈ jobs, foreign.clientId = other →
    foreign.id ≠ job.id

end Tables

namespace JobQueue

variable {env : Environment} {tick : Tick} {clientId other : Uuid} {jobType : IntelJobType}
  {changedKeys : Option (List String)} {debounceSeconds : Int} {jobs : List IntelJob}

/-- The job a request is merged into is one of the client's. -/
theorem pendingForClient_mem {job : IntelJob} (found : pendingForClient jobs clientId = some job) :
    job ∈ jobs ∧ job.clientId = clientId := by
  have selected := mem_of_firstBy found
  obtain ⟨inside, pending⟩ := List.mem_filter.mp selected
  rw [isPendingFor, Bool.and_eq_true, decide_eq_true_eq] at pending
  exact ⟨inside, pending.1⟩

/-- A request for one client leaves the jobs of another. -/
theorem enqueue_other (apart : other ≠ clientId) (separate : Tables.JobsApart clientId other jobs) :
    (enqueue env tick clientId jobType changedKeys debounceSeconds jobs).filter
      (fun job => job.clientId = other) = jobs.filter fun job => job.clientId = other := by
  unfold enqueue
  split
  · dsimp only
    split
    · next existing found =>
      obtain ⟨member, own⟩ := pendingForClient_mem found
      refine Table.filter_modify fun job inside same => ?_
      have mine : ¬job.clientId = other := fun foreign =>
        separate existing member own job inside foreign same
      exact ⟨decide_eq_false mine, decide_eq_false mine⟩
    · exact Table.filter_concat (decide_eq_false fun same => apart same.symm)
  · rfl

/-- A request leaves the jobs of two clients apart when its identifier is new to the other. -/
theorem enqueue_apart (apart : other ≠ clientId) (separate : Tables.JobsApart clientId other jobs)
    (fresh : ∀ job ∈ jobs, job.clientId = other → job.id ≠ tick.jobId) :
    Tables.JobsApart clientId other
      (enqueue env tick clientId jobType changedKeys debounceSeconds jobs) := by
  unfold enqueue
  split
  · dsimp only
    split
    · next existing found =>
      have kept (job : IntelJob) (inside : job ∈ Table.modify IntelJob.id existing.id
          (coalesce jobType changedKeys (if debounceSeconds = 0 then none else
            some (tick.now + debounceSeconds * second))) jobs) :
          ∃ old ∈ jobs, old.id = job.id ∧ old.clientId = job.clientId := by
        rcases Table.mem_modify.mp inside with ⟨old, -⟩ | ⟨old, member, -, rfl⟩
        · exact ⟨job, old, rfl, rfl⟩
        · exact ⟨old, member, rfl, rfl⟩
      intro job inside own foreign member theirs same
      obtain ⟨mine, first, id, client⟩ := kept job inside
      obtain ⟨old, second, otherId, otherClient⟩ := kept foreign member
      exact separate mine first (client.trans own) old second (otherClient.trans theirs)
        (otherId.trans (same.trans id.symm))
    · intro job inside own foreign member theirs
      have theirsOld : foreign ∈ jobs := by
        rcases List.mem_append.mp member with old | new
        · exact old
        · rw [List.mem_singleton.mp new] at theirs
          exact absurd theirs.symm apart
      rcases List.mem_append.mp inside with old | new
      · exact separate job old own foreign theirsOld theirs
      · rw [List.mem_singleton.mp new]
        exact fresh foreign theirsOld theirs
  · exact separate

end JobQueue

namespace ProposalService

variable {env : Environment} {tick : Tick} {t : Tables} {clientId other : Uuid} {user : User}
  {op : ProposedOperation} {call : StageCall env} {result : Executed}

/-! ## One write -/

/-- A task under the identifier of a client's task is the client's. -/
theorem clientId_of_getTask {taskId : Uuid} {task row : PlanTask} (valid : t.Consistent)
    (found : t.getTask clientId taskId = some task) (inside : row ∈ t.planTasks)
    (same : row.id = taskId) : row.clientId = clientId := by
  have key := Table.get_key found
  have id : task.id = taskId := congrArg Prod.fst key
  have equal := List.inj_on_of_nodup_map valid.2.2.2.2.2.1 inside (Table.get_mem found)
    (same.trans id.symm)
  rw [equal]
  exact congrArg Prod.snd key

/-- No task of another client stands under the identifier of a client's task. -/
theorem any_tasksOf_other {taskId : Uuid} {task : PlanTask} (valid : t.Consistent)
    (apart : other ≠ clientId) (found : t.getTask clientId taskId = some task) :
    ((t.tasksOf other).any fun row => row.id = taskId) = false := by
  refine List.any_eq_false.mpr fun row inside => ?_
  obtain ⟨member, theirs⟩ := List.mem_filter.mp inside
  intro same
  have mine := clientId_of_getTask valid found member (of_decide_eq_true same)
  exact apart ((of_decide_eq_true theirs).symm.trans mine)

/-- The writes a call is replayed as: rows of one client, and rows of users, assignments and the
client where an administrator must approve the call. -/
inductive Wrote (env : Environment) (tick : Tick) (t : Tables) (clientId : Uuid) :
    Bool → Tables → Prop where
  | addTask (task : PlanTask) (own : task.clientId = clientId) :
      Wrote env tick t clientId false { t with planTasks := t.planTasks ++ [task] }
  | editTask (taskId : Uuid) (task : PlanTask) (change : PlanTask → PlanTask)
      (found : t.getTask clientId taskId = some task)
      (keeps : ∀ row, (change row).clientId = row.clientId) :
      Wrote env tick t clientId false (t.modifyTask taskId change)
  | removeTask (taskId : Uuid) (task : PlanTask) (found : t.getTask clientId taskId = some task) :
      Wrote env tick t clientId false { t with
        planTasks := Table.remove PlanTask.id taskId t.planTasks
        planTaskNotes := Table.remove PlanTaskNote.taskId taskId t.planTaskNotes
        planTaskAssets := Table.remove PlanTaskAsset.taskId taskId t.planTaskAssets }
  | addNote (taskId : Uuid) (task : PlanTask) (note : PlanTaskNote)
      (found : t.getTask clientId taskId = some task) (on : note.taskId = taskId) :
      Wrote env tick t clientId false { t with planTaskNotes := t.planTaskNotes ++ [note] }
  | addAssignment (row : ClientAssignment) (own : row.clientId = clientId) :
      Wrote env tick t clientId true { t with assignments := t.assignments ++ [row] }
  | editAssignment (userId : Uuid) (change : ClientAssignment → ClientAssignment)
      (keeps : ∀ row, (change row).clientId = row.clientId) :
      Wrote env tick t clientId true { t with
        assignments := Table.modify ClientAssignment.pair (clientId, userId) change t.assignments }
  | removeAssignment (userId : Uuid) :
      Wrote env tick t clientId true { t with
        assignments := Table.remove ClientAssignment.pair (clientId, userId) t.assignments }
  | editClient (change : Client → Client) (intelJobs : List IntelJob)
      (keeps : ∀ row, (change row).id = row.id)
      (queue : intelJobs = t.intelJobs ∨
        ∃ keys, intelJobs = JobQueue.enqueue env tick clientId .incremental keys 5 t.intelJobs) :
      Wrote env tick t clientId true { t.modifyClient clientId change with intelJobs }
  | editUser (userId : Uuid) (change : User → User) :
      Wrote env tick t clientId true (t.modifyUser userId change)

/-- A replayed call is one of these writes. -/
theorem wrote_of_replay (done : replay env tick t clientId user op call = .ok result) :
    Wrote env tick t clientId (adminOnly call) result.tables := by
  have touched (before after : PlanTask) (same : after.clientId = before.clientId) :
      (PlanTask.touch tick.now before after).clientId = before.clientId := by
    unfold PlanTask.touch
    split
    · rfl
    · exact same
  have edited (before after : Client) (same : after.id = before.id) :
      (Client.touch tick.now before after).id = before.id := by
    unfold Client.touch
    split <;> exact same
  cases call with
  | planTaskCreate data =>
    obtain ⟨applied, made, rfl⟩ := Outcome.of_map_ok done
    rw [executed, (PlanService.applyCreateTask_ok made).2.1]
    exact .addTask _ rfl
  | planTaskUpdate taskId data =>
    obtain ⟨applied, made, rfl⟩ := Outcome.of_map_ok done
    obtain ⟨task, found, -, -, tables⟩ := PlanService.applyUpdateTask_ok made
    rw [executed, tables]
    exact .editTask taskId task _ found fun row => touched row _ rfl
  | planTaskDelete taskId =>
    obtain ⟨applied, made, rfl⟩ := Outcome.of_map_ok done
    obtain ⟨found, tables⟩ := PlanService.applyDeleteTask_ok made
    rw [executed, tables]
    exact .removeTask taskId _ found
  | planTaskDuplicate taskId =>
    obtain ⟨applied, made, rfl⟩ := Outcome.of_map_ok done
    obtain ⟨source, -, tables⟩ := PlanService.applyDuplicateTask_ok made
    rw [executed, tables]
    exact .addTask _ rfl
  | planTaskAddNote taskId data =>
    obtain ⟨⟨note, task, tables⟩, made, rfl⟩ := Outcome.of_map_ok done
    obtain ⟨rfl, found, rfl⟩ := PlanService.applyAddNote_ok made
    exact .addNote taskId task _ found (congrArg Prod.fst (Table.get_key found))
  | assignmentAssign target caps =>
    obtain ⟨⟨row, tables⟩, made, rfl⟩ := Outcome.of_map_ok done
    obtain ⟨rfl, rfl⟩ := AssignmentService.applyAssign_ok made
    exact .addAssignment _ rfl
  | assignmentSetCapabilities target caps =>
    obtain ⟨⟨row, tables⟩, made, rfl⟩ := Outcome.of_map_ok done
    obtain rfl := AssignmentService.applySetCapabilities_ok made
    exact .editAssignment target _ fun _ => rfl
  | assignmentUnassign target =>
    obtain ⟨tables, made, rfl⟩ := Outcome.of_map_ok done
    obtain rfl := AssignmentService.applyUnassign_ok made
    exact .removeAssignment target
  | updateClient data =>
    obtain ⟨applied, made, rfl⟩ := Outcome.of_map_ok done
    obtain ⟨client, -, -, tables⟩ := ClientService.applyUpdateClient_ok made
    have queue := ClientService.applyUpdateClient_jobs made
    rw [executed, tables]
    exact .editClient _ _ (fun row => edited row _ rfl) queue
  | updateBrand data =>
    simp only [replay] at done
    split at done
    · cases done
    · next client found =>
      obtain rfl := Except.ok.inj done
      obtain rfl : client.id = clientId := Table.get_key found
      exact .editClient _ _ (fun row => edited row _ rfl) (.inr ⟨_, rfl⟩)
  | updateUser target data =>
    obtain ⟨applied, made, rfl⟩ := Outcome.of_map_ok done
    obtain ⟨row, -, -, tables⟩ := UserService.applyUpdateUser_ok made
    rw [executed, tables]
    exact .editUser _ _

namespace Wrote

variable {admin : Bool} {t' : Tables}

/-- A write for one client leaves what another one holds. -/
theorem holdings (wrote : Wrote env tick t clientId admin t') (valid : t.Consistent)
    (apart : other ≠ clientId) (separate : Tables.JobsApart clientId other t.intelJobs) :
    t'.holdings other = t.holdings other := by
  have foreign : ¬clientId = other := fun same => apart same.symm
  cases wrote with
  | addTask task own =>
    have same : Tables.tasksOf { t with planTasks := t.planTasks ++ [task] } other =
        t.tasksOf other := Table.filter_concat (decide_eq_false (own ▸ foreign))
    simp only [Tables.holdings, same]
  | editTask taskId task change found keeps =>
    have same : (t.modifyTask taskId change).tasksOf other = t.tasksOf other := by
      refine Table.filter_modify fun row inside hit => ?_
      have own := clientId_of_getTask valid found inside hit
      exact ⟨decide_eq_false (own ▸ foreign), decide_eq_false ((keeps row).trans own ▸ foreign)⟩
    simp only [Tables.holdings, same]
    rfl
  | removeTask taskId task found =>
    have same : Tables.tasksOf { t with
        planTasks := Table.remove PlanTask.id taskId t.planTasks
        planTaskNotes := Table.remove PlanTaskNote.taskId taskId t.planTaskNotes
        planTaskAssets := Table.remove PlanTaskAsset.taskId taskId t.planTaskAssets } other =
        t.tasksOf other := by
      refine Table.filter_remove fun row inside hit => ?_
      exact decide_eq_false (clientId_of_getTask valid found inside hit ▸ foreign)
    have none := any_tasksOf_other valid apart found
    simp only [Tables.holdings, same]
    rw [Table.filter_remove fun note _ hit => hit ▸ none,
      Table.filter_remove fun link _ hit => hit ▸ none]
  | addNote taskId task note found on =>
    have none := any_tasksOf_other valid apart found
    have same : (t.planTaskNotes ++ [note]).filter
        (fun note => (t.tasksOf other).any fun task => task.id = note.taskId) = _ :=
      Table.filter_concat (on ▸ none)
    simp only [Tables.holdings]
    exact congrArg (fun notes => Holdings.mk _ _ _ notes _ _ _ _) same
  | addAssignment row own =>
    have same : (t.assignments ++ [row]).filter (fun row => row.clientId = other) = _ :=
      Table.filter_concat (decide_eq_false (own ▸ foreign))
    simp only [Tables.holdings, Tables.tasksOf, same]
  | editAssignment userId change keeps =>
    have same : (Table.modify ClientAssignment.pair (clientId, userId) change t.assignments).filter
        (fun row => row.clientId = other) = t.assignments.filter fun row => row.clientId = other := by
      refine Table.filter_modify fun row _ hit => ?_
      have own : row.clientId = clientId := congrArg Prod.fst hit
      exact ⟨decide_eq_false (own ▸ foreign), decide_eq_false ((keeps row).trans own ▸ foreign)⟩
    simp only [Tables.holdings, Tables.tasksOf, same]
  | removeAssignment userId =>
    have same : (Table.remove ClientAssignment.pair (clientId, userId) t.assignments).filter
        (fun row => row.clientId = other) = t.assignments.filter fun row => row.clientId = other := by
      refine Table.filter_remove fun row _ hit => ?_
      have own : row.clientId = clientId := congrArg Prod.fst hit
      exact decide_eq_false (own ▸ foreign)
    simp only [Tables.holdings, Tables.tasksOf, same]
  | editClient change intelJobs keeps queue =>
    have jobs : intelJobs.filter (fun job => job.clientId = other) =
        t.intelJobs.filter fun job => job.clientId = other := by
      rcases queue with rfl | ⟨keys, rfl⟩
      · rfl
      · exact JobQueue.enqueue_other apart separate
    have same : (Table.modify Client.id clientId change t.clients).filter
        (fun client => client.id = other) = t.clients.filter fun client => client.id = other := by
      refine Table.filter_modify fun row _ hit => ?_
      exact ⟨decide_eq_false (hit ▸ foreign), decide_eq_false ((keeps row).trans hit ▸ foreign)⟩
    simp only [Tables.holdings, Tables.tasksOf, Tables.modifyClient, jobs, same]
  | editUser userId change => rfl

/-- A write for one client leaves the jobs of two clients apart. -/
theorem jobsApart (wrote : Wrote env tick t clientId admin t') (apart : other ≠ clientId)
    (separate : Tables.JobsApart clientId other t.intelJobs)
    (fresh : ∀ job ∈ t.intelJobs, job.clientId = other → job.id ≠ tick.jobId) :
    Tables.JobsApart clientId other t'.intelJobs := by
  cases wrote with
  | editClient change intelJobs keeps queue =>
    rcases queue with rfl | ⟨keys, rfl⟩
    · exact separate
    · exact JobQueue.enqueue_apart apart separate fresh
  | _ => exact separate

/-- A write that no administrator must approve leaves users, assignments and clients. -/
theorem profile (wrote : Wrote env tick t clientId false t') :
    t'.users = t.users ∧ t'.assignments = t.assignments ∧ t'.clients = t.clients := by
  cases wrote <;> exact ⟨rfl, rfl, rfl⟩

end Wrote

/-! ## The loop -/

/-- An operation of a client's proposal: staged for the client, by anyone, on any tables. -/
def Issued (env : Environment) (clientId : Uuid) (op : ProposedOperation) : Prop :=
  ∃ t author, ∃ call : StageCall env, ∃ made seq,
    StagedBy t clientId author made call ∧ op = made.persist seq

section Loop

variable {ticks : Nat → Tick} {proposalId : Uuid} {operations executed : List ProposedOperation}
  {marked : ProposedOperation} {t' : Tables}

/-- One turn of the loop writes what the call is replayed as, and an audit row. -/
theorem wrote_of_executeAndRecord (issued : Issued env clientId op)
    (done : executeAndRecord env tick user clientId proposalId t op = .ok (marked, t')) :
    ∃ written auditLog, Wrote env tick t clientId op.requiresAdmin written ∧
      t' = { written with auditLog } ∧ t'.Consistent := by
  obtain ⟨before, author, call, made, seq, ⟨atTick, staged, stagedAs, rfl⟩, rfl⟩ := issued
  simp only [executeAndRecord, Outcome.bind_ok] at done
  obtain ⟨result, ran, flushed, sent, done⟩ := done
  obtain ⟨rfl, valid, -⟩ := flushOperation_ok sent
  cases Except.ok.inj done
  rw [executeOperation_persist stagedAs] at ran
  have wrote := wrote_of_replay ran
  rw [← (standing_of_stage stagedAs).2] at wrote
  exact ⟨_, _, wrote, rfl, valid⟩

/-- What every turn of the loop keeps, a finished loop keeps. -/
theorem executeAll_keeps {P : Tables → Prop}
    (step : ∀ op ∈ operations, ∀ t marked t', P t →
      executeAndRecord env (ticks op.seq) user clientId proposalId t op = .ok (marked, t') → P t')
    (start : P t)
    (finished : executeAll env ticks user clientId proposalId t operations =
      .finished executed t') : P t' := by
  induction operations generalizing t executed with
  | nil =>
    obtain ⟨-, rfl⟩ := LoopEnd.finished.inj finished
    exact start
  | cons op rest ih =>
    obtain ⟨marked, middle, turn, done, last, later⟩ := executeAll_cons_finished.mp ⟨_, _, finished⟩
    have same : last = t' := by
      simp only [executeAll, turn, later, LoopEnd.finished.injEq] at finished
      exact finished.2
    rw [same] at later
    refine ih (fun op inside => step op (List.mem_cons_of_mem _ inside)) ?_ later
    exact step op List.mem_cons_self t marked middle start turn

/-- A finished loop leaves what another client holds. -/
theorem executeAll_holdings (issued : ∀ op ∈ operations, Issued env clientId op)
    (valid : t.Consistent) (apart : other ≠ clientId)
    (separate : Tables.JobsApart clientId other t.intelJobs)
    (fresh : ∀ i, ∀ job ∈ t.intelJobs, job.id ≠ (ticks i).jobId)
    (finished : executeAll env ticks user clientId proposalId t operations =
      .finished executed t') : t'.holdings other = t.holdings other := by
  have kept : t'.Consistent ∧ t'.holdings other = t.holdings other ∧
      Tables.JobsApart clientId other t'.intelJobs := by
    refine executeAll_keeps (P := fun now => now.Consistent ∧
      now.holdings other = t.holdings other ∧ Tables.JobsApart clientId other now.intelJobs)
      ?_ ⟨valid, rfl, separate⟩ finished
    rintro op inside now marked next ⟨sound, same, jobs⟩ turn
    obtain ⟨written, auditLog, wrote, rfl, after⟩ :=
      wrote_of_executeAndRecord (issued op inside) turn
    refine ⟨after, (wrote.holdings sound apart jobs).trans same, wrote.jobsApart apart jobs ?_⟩
    intro job member theirs
    have still : job ∈ (now.holdings other).intelJobs :=
      List.mem_filter.mpr ⟨member, decide_eq_true theirs⟩
    rw [same] at still
    exact fresh op.seq job (List.mem_filter.mp still).1
  exact kept.2.1

/-- A finished loop leaves users, assignments and clients when nothing in it asks for an
administrator. -/
theorem executeAll_profile (issued : ∀ op ∈ operations, Issued env clientId op)
    (plain : ∀ op ∈ operations, op.requiresAdmin = false)
    (finished : executeAll env ticks user clientId proposalId t operations =
      .finished executed t') :
    t'.users = t.users ∧ t'.assignments = t.assignments ∧ t'.clients = t.clients := by
  refine executeAll_keeps (P := fun now => now.users = t.users ∧
    now.assignments = t.assignments ∧ now.clients = t.clients) ?_ ⟨rfl, rfl, rfl⟩ finished
  rintro op inside now marked next ⟨users, assignments, clients⟩ turn
  obtain ⟨written, auditLog, wrote, rfl, -⟩ := wrote_of_executeAndRecord (issued op inside) turn
  rw [plain op inside] at wrote
  obtain ⟨sameUsers, sameAssignments, sameClients⟩ := wrote.profile
  exact ⟨sameUsers.trans users, sameAssignments.trans assignments, sameClients.trans clients⟩

end Loop

/-! ## The approval -/

/-- What an approval of a client's proposal may change. -/
structure Within (clientId proposalId : Uuid) (user : User) (t t' : Tables) : Prop where
  others : ∀ other, other ≠ clientId → t'.holdings other = t.holdings other
  profile : user.role ≠ .admin →
    t'.users = t.users ∧ t'.assignments = t.assignments ∧ t'.clients = t.clients
  audit : ∃ added, t'.auditLog = t.auditLog ++ added ∧ ∀ row ∈ added,
    row.clientId = some clientId ∧ row.actorUserId = some user.id ∧
      row.proposalId = some proposalId

namespace Within

variable {proposalId : Uuid} {t' t'' : Tables}

/-- Changing nothing is within every bound. -/
theorem refl (t : Tables) : Within clientId proposalId user t t where
  others _ _ := rfl
  profile _ := ⟨rfl, rfl, rfl⟩
  audit := ⟨[], (List.append_nil _).symm, fun _ inside => by cases inside⟩

/-- Two changes within the bound are within it together. -/
theorem trans (first : Within clientId proposalId user t t')
    (second : Within clientId proposalId user t' t'') :
    Within clientId proposalId user t t'' where
  others other apart := (second.others other apart).trans (first.others other apart)
  profile role := by
    obtain ⟨users, assignments, clients⟩ := first.profile role
    obtain ⟨users', assignments', clients'⟩ := second.profile role
    exact ⟨users'.trans users, assignments'.trans assignments, clients'.trans clients⟩
  audit := by
    obtain ⟨added, log, named⟩ := first.audit
    obtain ⟨added', log', named'⟩ := second.audit
    refine ⟨added ++ added', by rw [log', log, List.append_assoc], fun row inside => ?_⟩
    rcases List.mem_append.mp inside with early | late
    · exact named row early
    · exact named' row late

/-- A write to the proposal is within the bound. -/
theorem modifyProposal {change : ChangeProposal → ChangeProposal}
    (own : ∀ p ∈ t.proposals, p.id = proposalId → p.clientId = clientId)
    (keeps : ∀ p, (change p).clientId = p.clientId) :
    Within clientId proposalId user t (t.modifyProposal proposalId change) where
  others other apart := by
    have same : (Table.modify ChangeProposal.id proposalId change t.proposals).filter
        (fun p => p.clientId = other) = t.proposals.filter fun p => p.clientId = other := by
      refine Table.filter_modify fun p inside hit => ?_
      have mine : ¬p.clientId = other := fun theirs => apart (theirs.symm.trans (own p inside hit))
      exact ⟨decide_eq_false mine, decide_eq_false ((keeps p).symm ▸ mine)⟩
    simp only [Tables.holdings, Tables.tasksOf, Tables.modifyProposal, same]
  profile _ := ⟨rfl, rfl, rfl⟩
  audit := ⟨[], (List.append_nil _).symm, fun _ inside => by cases inside⟩

/-- A commit stores the tasks of another client as they were stored. -/
theorem stored (within : Within clientId proposalId user t t')
    (columns : ∀ task ∈ t.planTasks, task.stored = task) :
    Within clientId proposalId user t t'.stored where
  others other apart := by
    have held := within.others other apart
    have same : t'.stored.tasksOf other = t'.tasksOf other := by
      have kept : t'.tasksOf other = t.tasksOf other := congrArg Holdings.planTasks held
      show (t'.planTasks.map PlanTask.stored).filter (fun task => task.clientId = other) = _
      rw [List.filter_map]
      show (t'.tasksOf other).map PlanTask.stored = _
      rw [kept]
      exact (List.map_congr_left fun task inside => columns task (List.mem_filter.mp inside).1).trans
        (List.map_id _)
    rw [← held]
    simp only [Tables.holdings, same]
    rfl
  profile := within.profile
  audit := within.audit

end Within

/-- An authority check that passes lets an administrator only approve what asks for one. -/
theorem requiresAdmin_of_checkAuthority {caps : List ClientCapability}
    (passed : checkAuthority user caps op = .ok none) (asks : op.requiresAdmin = true) :
    user.role = .admin := by
  by_contra role
  simp only [checkAuthority, asks, role, ne_eq, not_false_eq_true, and_self, ↓reduceIte,
    Outcome.pure_eq, Outcome.ok_bind] at passed
  split at passed
  · cases passed
  · cases passed
  · simp only [Outcome.bind_ok] at passed
    obtain ⟨capability, -, passed⟩ := passed
    split at passed <;> cases passed

/-- Authority checks that pass let an administrator only approve what asks for one. -/
theorem requiresAdmin_of_checkAuthorities {caps : List ClientCapability}
    {operations : List ProposedOperation}
    (passed : checkAuthorities user caps operations = .ok none) :
    ∀ op ∈ operations, op.requiresAdmin = true → user.role = .admin := by
  induction operations with
  | nil => exact fun _ inside => by cases inside
  | cons op rest ih =>
    simp only [checkAuthorities, Outcome.bind_ok] at passed
    obtain ⟨reason, own, passed⟩ := passed
    cases reason with
    | some reason => cases passed
    | none =>
      intro sought inside asks
      rcases List.mem_cons.mp inside with rfl | later
      · exact requiresAdmin_of_checkAuthority own asks
      · exact ih passed sought later asks

section Approval

variable {ticks : Nat → Tick} {now : Timestamp} {db : Database} {proposal : ChangeProposal}

/-- A validation and execution stays within its client. -/
theorem validateAndExecute_within {proposalId : Uuid} (client : proposal.clientId = clientId)
    (named : proposal.id = proposalId)
    (issued : ∀ op ∈ proposal.operations, Issued env clientId op)
    (own : ∀ p ∈ db.tables.proposals, p.id = proposalId → p.clientId = clientId)
    (jobs : (db.tables.intelJobs.map IntelJob.id).Nodup)
    (fresh : ∀ i, ∀ job ∈ db.tables.intelJobs, job.id ≠ (ticks i).jobId) :
    Within clientId proposalId user db.tables
      (validateAndExecute env ticks now user proposal db).2.tables := by
  subst client
  subst named
  unfold validateAndExecute
  split
  · exact .refl _
  · exact .modifyProposal own fun _ => rfl
  · next checked =>
    split
    · exact .refl _
    · exact .modifyProposal own fun _ => rfl
    · next executed t finished =>
      split
      · exact .refl _
      · next after committed =>
        rw [commit_ok committed]
        obtain ⟨-, -, audit, kept, -⟩ := executeAll_finished finished
        have ran : Within proposal.clientId proposal.id user db.tables t := by
          refine ⟨fun other apart => ?_, fun role => ?_, _, audit, fun row inside => ?_⟩
          · refine executeAll_holdings issued db.consistent apart ?_ fresh finished
            intro job member mine foreign inside theirs same
            have equal := List.inj_on_of_nodup_map jobs inside member same
            rw [equal] at theirs
            exact apart (theirs.symm.trans mine)
          · refine executeAll_profile issued (fun op inside => ?_) finished
            simp only [preflight, Outcome.bind_ok] at checked
            obtain ⟨reason, standing, checked⟩ := checked
            cases reason with
            | some reason => cases checked
            | none =>
              unfold checkStanding at standing
              split at standing
              · cases standing
              · cases asks : op.requiresAdmin with
                | false => rfl
                | true =>
                  exact absurd (requiresAdmin_of_checkAuthorities standing op inside asks) role
          · obtain ⟨op, -, rfl⟩ := List.mem_map.mp inside
            exact ⟨rfl, rfl, rfl⟩
        have completed : Within proposal.clientId proposal.id user db.tables
            (t.modifyProposal proposal.id (complete user now executed)) :=
          ran.trans (.modifyProposal (fun p inside => own p (kept ▸ inside)) fun _ => rfl)
        exact completed.stored fun task => db.task_stored

end Approval

/-- A proposal found after a claim that updated a row was pending before. -/
theorem claimed_of_getProposal {proposalId : Uuid} {db : Database} {stored : ChangeProposal}
    (claimed : (claimForExecution proposalId db).1 ≠ 0)
    (found : (claimForExecution proposalId db).2.tables.getProposal clientId proposalId =
      some stored) :
    ∃ p ∈ db.tables.proposals, p.id = proposalId ∧ p.status = .pendingApproval ∧
      stored = p.claimed := by
  obtain ⟨pending, selected⟩ := List.exists_mem_of_length_pos (Nat.pos_of_ne_zero claimed)
  obtain ⟨member, chosen⟩ := List.mem_filter.mp selected
  rw [Bool.and_eq_true, decide_eq_true_eq, decide_eq_true_eq] at chosen
  obtain ⟨id, status⟩ := chosen
  have named : stored.id = proposalId := congrArg Prod.fst (Table.get_key found)
  refine ⟨pending, member, id, status, ?_⟩
  rcases Table.mem_modify.mp (Table.get_mem found) with ⟨-, other⟩ | ⟨old, inside, same, rfl⟩
  · exact absurd named other
  · have equal : old = pending := List.inj_on_of_nodup_map db.consistent.2.2.2.2.2.2.2.2 inside
      member (same.trans id.symm)
    rw [equal, if_pos status]
    rfl

/-- Approving a proposal of a client that was built from staged operations changes rows of that
client only, whoever approves it, for whatever client it is requested and however it ends. Users,
assignments and the client itself are left unless the approver is an administrator, and every audit
row names the client, the approver and the proposal. -/
theorem approve_within_client (env : Environment) (ticks : Nat → Tick) (now : Timestamp)
    (user : User) (requested clientId : Uuid) (operations : List StagedOperation)
    (staged : ∀ op ∈ operations, ∃ t author, ∃ call : StageCall env,
      StagedBy t clientId author op call)
    (tick : Tick) (origin created : Database) (chatId messageId : Option Uuid) (createdBy : Uuid)
    (rawRequest summary : String) (ttlMinutes : Int) (proposal : ChangeProposal)
    (built : createProposal tick origin clientId chatId messageId createdBy rawRequest summary
      operations ttlMinutes = .ok (proposal, created))
    (db : Database)
    (held : ∀ p ∈ db.tables.proposals, p.id = proposal.id → p.clientId = clientId ∧
      (p.status = .pendingApproval → p.operations = proposal.operations))
    (jobs : (db.tables.intelJobs.map IntelJob.id).Nodup)
    (fresh : ∀ i, ∀ job ∈ db.tables.intelJobs, job.id ≠ (ticks i).jobId) :
    Within clientId proposal.id user db.tables
      (approve env ticks now user requested proposal.id db).2.tables := by
  obtain ⟨-, same, -, -⟩ := createProposal_ok built
  have swapped : ∀ p ∈ db.tables.proposals, p.id = proposal.id → p.clientId = clientId :=
    fun p inside hit => (held p inside hit).1
  have claim : Within clientId proposal.id user db.tables
      (claimForExecution proposal.id db).2.tables := by
    refine .modifyProposal swapped fun p => ?_
    split <;> rfl
  unfold approve
  split
  · exact .refl _
  · dsimp only
    split
    · exact claim
    · split
      · exact claim
      · next claimed _ stored found =>
        have found : (claimForExecution proposal.id db).2.tables.getProposal requested proposal.id =
            some stored := by
          unfold getProposal at found
          split at found
          · cases found
          · next row lookup => rw [lookup, Except.ok.inj found]
        obtain ⟨p, inside, id, pending, rfl⟩ := claimed_of_getProposal claimed found
        obtain ⟨own, operations'⟩ := held p inside id
        have issued : ∀ op ∈ p.claimed.operations, Issued env clientId op := by
          show ∀ op ∈ p.operations, Issued env clientId op
          rw [operations' pending, same]
          intro op member
          obtain ⟨seq, bound, rfl⟩ := List.mem_mapIdx.mp member
          obtain ⟨t, author, call, made⟩ := staged operations[seq] (List.getElem_mem bound)
          exact ⟨t, author, call, _, seq, made, rfl⟩
        refine claim.trans (validateAndExecute_within own id issued ?_ jobs fresh)
        intro other member hit
        rcases Table.mem_modify.mp member with ⟨old, -⟩ | ⟨old, before, was, rfl⟩
        · exact swapped other old hit
        · have kept := swapped old before was
          split
          · exact kept
          · exact kept

/-- The operations of a turn were staged for its client. -/
theorem staged_of_collect {calls : List (ToolCall env)} {operations : List StagedOperation}
    (collected : Handlers.collect t clientId user calls = .ok operations) :
    ∀ op ∈ operations, ∃ t author, ∃ call : StageCall env, StagedBy t clientId author op call := by
  intro op inside
  have made := stagedBy_collect collected
  obtain ⟨seq, bound, rfl⟩ := List.mem_iff_getElem.mp inside
  exact ⟨t, user, _, made.get bound (made.length_eq ▸ bound)⟩

/-- What the sample calls stage. -/
def sampleOperations : List StagedOperation :=
  match Handlers.collect (sampleTables []) 2 sampleAdmin sampleCalls with
  | .ok operations => operations
  | .error _ => []

/-- The sample calls succeed. -/
theorem sampleOperations_collected :
    Handlers.collect (sampleTables []) 2 sampleAdmin sampleCalls = .ok sampleOperations := rfl

set_option maxRecDepth 8000 in
/-- A task is renamed, noted on and deleted by one proposal. -/
theorem sampleOperations_within_client :
    ∃ proposal created, createProposal sampleProposalTick (sampleDatabase []) 2 none none 1 "tidy" ""
        sampleOperations 60 = .ok (proposal, created) ∧
      Within 2 proposal.id sampleAdmin created.tables
        (approve sampleEnv sampleTicks 20 sampleAdmin 2 proposal.id created).2.tables := by
  refine ⟨_, _, rfl, approve_within_client sampleEnv sampleTicks 20 sampleAdmin 2 2 sampleOperations
    (staged_of_collect sampleOperations_collected) sampleProposalTick (sampleDatabase []) _ none none
    1 "tidy" "" 60 _ rfl _ ?_ (by decide) fun _ _ inside => by cases inside⟩
  intro p inside _
  cases inside with
  | head => exact ⟨rfl, fun _ => rfl⟩
  | tail _ inside => cases inside

end ProposalService

end MarketingOS
