import MarketingOS.Ai.Handlers
import MarketingOS.Verif.EarlierCalls
import MarketingOS.Verif.Staleness

/-!
# When a fresh proposal is executed

A proposal that is approved before it expires, with no other write in between, is executed whole
exactly when each of its calls fits the calls before it. The loop of the execution carries what the
earlier calls leave of the tables all calls were staged on.
-/
namespace MarketingOS.ProposalService

variable {env : Environment}

/-! ## The calls behind the operations of a turn -/

/-- An operation that a call staged. -/
def StagedBy (t : Tables) (clientId : Uuid) (user : User) (op : StagedOperation)
    (call : StageCall env) : Prop :=
  ∃ tick made, stage env tick t clientId user call = .ok made ∧ made.operation = op

/-- What a bulk tool stages, task by task. -/
theorem stagedBy_stageEach (tick : Tick) {t : Tables} {clientId : Uuid} {user : User}
    {toCall : Uuid → StageCall env} {stageTask : Uuid → Outcome Staged}
    (made : ∀ taskId, stageTask taskId = stage env tick t clientId user (toCall taskId))
    {ids : List Uuid} {batch : StagedBatch}
    (done : Handlers.stageEach stageTask ids = .ok batch) :
    List.Forall₂ (StagedBy t clientId user) batch.operations
      ((ids.filter fun taskId => (stageTask taskId).isOk).map toCall) := by
  induction ids generalizing batch with
  | nil =>
    obtain rfl := Except.ok.inj done
    exact .nil
  | cons taskId rest ih =>
    unfold Handlers.stageEach at done
    split at done
    · next staged staged_ok =>
      simp only [Outcome.bind_ok] at done
      obtain ⟨later, collected, done⟩ := done
      obtain rfl := Except.ok.inj done
      have ok : (stageTask taskId).isOk = true := by rw [staged_ok]; rfl
      simp only [List.filter_cons, ok, ↓reduceIte, List.map_cons]
      exact .cons ⟨tick, staged, (made taskId).symm.trans staged_ok, rfl⟩ (ih collected)
    · next error refused =>
      simp only [Outcome.bind_ok] at done
      obtain ⟨later, collected, done⟩ := done
      obtain rfl := Except.ok.inj done
      have failed : (stageTask taskId).isOk = false := by rw [refused]; rfl
      simp only [List.filter_cons, failed, Bool.false_eq_true, ↓reduceIte]
      exact ih collected
    · cases done

/-- What one tool call stages. -/
theorem stagedBy_propose {t : Tables} {clientId : Uuid} {user : User} {call : ToolCall env}
    {operations : List StagedOperation}
    (done : Handlers.propose t clientId user call = .ok operations) :
    List.Forall₂ (StagedBy t clientId user) operations
      (Handlers.stageCalls t clientId user call) := by
  cases call with
  | single tick call =>
    obtain ⟨made, staged, rfl⟩ := Outcome.of_map_ok done
    exact .cons ⟨tick, made, staged, rfl⟩ .nil
  | bulkUpdate tick ids newStatus priority category archived =>
    obtain ⟨batch, staged, rfl⟩ := Outcome.of_map_ok done
    unfold Handlers.proposeBulkUpdatePlanTasks at staged
    split at staged
    · cases staged
    split at staged
    · cases staged
    exact stagedBy_stageEach tick (fun _ => rfl) staged
  | bulkDelete ids =>
    obtain ⟨batch, staged, rfl⟩ := Outcome.of_map_ok done
    unfold Handlers.proposeBulkDeletePlanTasks at staged
    split at staged
    · cases staged
    exact stagedBy_stageEach ⟨0, 0, 0, 0⟩ (fun _ => rfl) staged

/-- What the calls of a turn stage. -/
theorem stagedBy_collect {t : Tables} {clientId : Uuid} {user : User} {calls : List (ToolCall env)}
    {operations : List StagedOperation}
    (done : Handlers.collect t clientId user calls = .ok operations) :
    List.Forall₂ (StagedBy t clientId user) operations
      (calls.flatMap (Handlers.stageCalls t clientId user)) := by
  induction calls generalizing operations with
  | nil =>
    obtain rfl := Except.ok.inj done
    exact .nil
  | cons call rest ih =>
    simp only [Handlers.collect, Outcome.bind_ok] at done
    obtain ⟨first, proposed, later, collected, done⟩ := done
    obtain rfl := Except.ok.inj done
    rw [List.flatMap_cons]
    exact List.rel_append (stagedBy_propose proposed) (ih collected)

/-! ## The loop -/

section Loop

variable {staged t t' : Tables} {ticks : Nat → Tick} {clientId proposalId : Uuid} {user : User}
  {before : List (StageCall env)} {call : StageCall env} {op : StagedOperation}

/-- The audit trail is not among what is left of the tables. -/
theorem After.setAudit (after : After staged ticks clientId before t) (auditLog : List AuditLog) :
    After staged ticks clientId before { t with auditLog } where
  valid := after.valid
  client := after.client
  users := after.users
  tasks := ⟨after.tasks.deleted, after.tasks.kept, after.tasks.drawn⟩
  assignments := ⟨after.assignments.removed, after.assignments.stays, after.assignments.taken,
    after.assignments.free⟩

/-- The label of an executed operation fits when its own and the staged one do. -/
theorem fits_or {limit : Nat} {first second : Option String} (fit : fits limit first)
    (label : fits limit second) : fits limit (first.or second) := by
  cases first with
  | none => exact label
  | some text => exact fit

/-- A call that goes is executed and recorded, and leaves what it should. -/
theorem executeAndRecord_goes {marked : ProposedOperation}
    (done : executeOperation env (ticks before.length) t clientId marked =
      replay env (ticks before.length) t clientId user marked call)
    (goes : Goes staged ticks clientId user before t marked call)
    (label : fits 200 marked.entityLabel) (proposalId : Uuid) :
    ∃ result t', executeAndRecord env (ticks before.length) user clientId proposalId t marked =
      .ok (result, t') ∧ After staged ticks clientId (before ++ [call]) t' := by
  obtain ⟨result, replayed, fit, after⟩ := goes
  rw [replayed] at done
  obtain ⟨changes, kept⟩ := executeOperation_operation done
  have labelled : fits 200 result.operation.entityLabel := by
    rw [kept]
    exact label
  have short : fits 200 (markExecuted result).entityLabel = true := fits_or fit labelled
  have recorded := after.setAudit (result.tables.auditLog ++
    [auditRow (ticks before.length) user clientId proposalId (markExecuted result)])
  refine ⟨markExecuted result, _, ?_, recorded⟩
  simp only [executeAndRecord, done, Outcome.ok_bind, flushOperation, short, ↓reduceIte,
    flush_of_consistent recorded.valid]
  rfl

/-- A call that is executed and recorded fits the earlier ones. -/
theorem fits_of_executeAndRecord {marked : ProposedOperation} {result : ProposedOperation × Tables}
    (done : executeOperation env (ticks before.length) t clientId marked =
      replay env (ticks before.length) t clientId user marked call)
    (after : After staged ticks clientId before t) (ready : Ready staged clientId user call)
    (recorded : executeAndRecord env (ticks before.length) user clientId proposalId t marked =
      .ok result) : Fits staged clientId before call := by
  simp only [executeAndRecord, Outcome.bind_ok] at recorded
  obtain ⟨executed, ended, flushed, sent, -⟩ := recorded
  obtain ⟨-, valid, -⟩ := flushOperation_ok sent
  exact fits_of_replay after ready (done.symm.trans ended) valid

/-- The loop finishes when its first turn goes through and the rest finishes. -/
theorem executeAll_cons_finished {seqTick : Nat → Tick} {first : ProposedOperation}
    {rest : List ProposedOperation} :
    (∃ executed last, executeAll env seqTick user clientId proposalId t (first :: rest) =
      .finished executed last) ↔
      ∃ marked t', executeAndRecord env (seqTick first.seq) user clientId proposalId t first =
          .ok (marked, t') ∧
        ∃ executed last, executeAll env seqTick user clientId proposalId t' rest =
          .finished executed last := by
  simp only [executeAll]
  cases executeAndRecord env (seqTick first.seq) user clientId proposalId t first with
  | error exc => cases exc <;> simp
  | ok result =>
    obtain ⟨marked, t'⟩ := result
    cases ended : executeAll env seqTick user clientId proposalId t' rest <;> simp [ended]

/-- The loop finishes exactly when every call fits those before it. The induction is on the
operations, over what the earlier ones leave. -/
theorem executeAll_finished_iff {count : Nat} {operations : List StagedOperation}
    {calls : List (StageCall env)} (ids : FreshIds staged ticks count)
    (made : List.Forall₂ (StagedBy staged clientId user) operations calls)
    (labels : ∀ op ∈ operations, fits 200 op.entityLabel)
    (after : After staged ticks clientId before t)
    (bound : before.length + operations.length ≤ count) (proposalId : Uuid) :
    (∃ executed t', executeAll env ticks user clientId proposalId t
        (operations.mapIdx fun i op => op.persist (before.length + i)) = .finished executed t') ↔
      Compatible staged clientId before calls := by
  induction made generalizing before t with
  | nil => exact ⟨fun _ => trivial, fun _ => ⟨[], t, rfl⟩⟩
  | @cons op call rest later first _ ih =>
    obtain ⟨tick, written, done, rfl⟩ := first
    have here : before.length < count := by
      rw [List.length_cons] at bound
      omega
    have label := labels written.operation List.mem_cons_self
    have dispatched := executeOperation_persist done before.length (ticks before.length) t
    have shifted : (rest.mapIdx fun i op => op.persist (before.length + (i + 1))) =
        rest.mapIdx fun i op => op.persist ((before ++ [call]).length + i) := by
      congr 1
      funext i op
      rw [List.length_append, List.length_singleton, Nat.add_assoc, Nat.add_comm 1 i]
    have further {t' : Tables} (valid : After staged ticks clientId (before ++ [call]) t') :=
      ih (fun op inside => labels op (List.mem_cons_of_mem _ inside)) valid (by
        rw [List.length_append, List.length_singleton]
        rw [List.length_cons] at bound
        omega)
    rw [List.mapIdx_cons, Nat.add_zero, shifted, executeAll_cons_finished]
    constructor
    · rintro ⟨marked, t', turn, finished⟩
      have fit := fits_of_executeAndRecord dispatched after (ready_of_stage done) turn
      obtain ⟨other, last, again, valid⟩ := executeAndRecord_goes dispatched
        (goes_of_fits after ids here done label fit) label proposalId
      cases Except.ok.inj (turn.symm.trans again)
      exact ⟨fit, (further valid).mp finished⟩
    · rintro ⟨fit, compatible⟩
      obtain ⟨marked, t', turn, valid⟩ := executeAndRecord_goes dispatched
        (goes_of_fits after ids here done label fit) label proposalId
      exact ⟨marked, t', turn, (further valid).mpr compatible⟩

end Loop

/-! ## The approval -/

/-- What `create_proposal` adds, and nothing else. -/
theorem createProposal_ok {tick : Tick} {db db' : Database} {clientId : Uuid}
    {chatId messageId : Option Uuid} {createdBy : Uuid} {rawRequest summary : String}
    {operations : List StagedOperation} {ttlMinutes : Int} {proposal : ChangeProposal}
    (created : createProposal tick db clientId chatId messageId createdBy rawRequest summary
      operations ttlMinutes = .ok (proposal, db')) :
    operations ≠ [] ∧ proposal = newProposal tick clientId chatId messageId createdBy rawRequest
        summary operations ttlMinutes ∧
      (∀ op ∈ operations, fits 200 op.entityLabel) ∧
      db'.tables = { db.tables with proposals := db.tables.proposals ++ [proposal] } := by
  unfold createProposal at created
  split at created
  · cases created
  next some =>
  dsimp only at created
  split at created
  · next labels =>
    simp only [Outcome.bind_ok] at created
    obtain ⟨committed, stored, created⟩ := created
    cases Except.ok.inj created
    refine ⟨fun empty => some (by rw [empty]; rfl), rfl, ?_, ?_⟩
    · intro op inside
      obtain ⟨i, bound, rfl⟩ := List.mem_iff_getElem.mp inside
      exact List.all_eq_true.mp labels _ (List.mem_mapIdx.mpr ⟨i, bound, rfl⟩)
    · rw [commit_ok stored, Tables.stored, db.tasks_stored]
  · cases created

/-- A created proposal is found under its client. -/
theorem getProposal_created {db : Database} {proposals : List ChangeProposal}
    {proposal : ChangeProposal} (added : db.tables.proposals = proposals ++ [proposal]) :
    db.tables.getProposal proposal.clientId proposal.id = some proposal := by
  have ids : (db.tables.proposals.map ChangeProposal.id).Nodup := db.consistent.2.2.2.2.2.2.2.2
  have keys : (db.tables.proposals.map ChangeProposal.scoped).Nodup := by
    refine List.Nodup.of_map Prod.fst ?_
    rw [List.map_map]
    exact ids
  refine Table.get_of_mem keys ?_
  rw [added]
  exact List.mem_append_right _ List.mem_cons_self

/-- An administrator meets every operation that asks for no capability. -/
theorem checkAuthorities_admin {user : User} (role : user.role = .admin)
    (caps : List ClientCapability) {operations : List ProposedOperation}
    (free : ∀ op ∈ operations, op.requiredCapability = none) :
    checkAuthorities user caps operations = .ok none := by
  induction operations with
  | nil => rfl
  | cons op rest ih =>
    have own : checkAuthority user caps op = .ok none := by
      simp [checkAuthority, free op List.mem_cons_self, role]
    simp only [checkAuthorities, own, Outcome.ok_bind]
    exact ih fun op inside => free op (List.mem_cons_of_mem _ inside)

/-- The rows an operation was staged on are live in tables that differ in their proposals only. -/
theorem matchesLiveSnapshot_of_stage {tick : Tick} {t : Tables} {clientId : Uuid} {user : User}
    {call : StageCall env} {made : Staged}
    (done : stage env tick t clientId user call = .ok made) (seq : Nat)
    (proposals : List ChangeProposal) :
    matchesLiveSnapshot { t with proposals } clientId (made.operation.persist seq) = true := by
  refine ProposalRace.matchesLiveSnapshot_iff.mpr ?_
  intro entity snapshot goes
  rw [ProposalRace.stage_target done, Option.bind_eq_some_iff] at goes
  obtain ⟨touched, -, goes⟩ := goes
  obtain ⟨version, live, same⟩ := Option.map_eq_some_iff.mp goes
  obtain ⟨rfl, rfl⟩ := Prod.mk.inj same
  cases touched <;> exact live

section Approval

variable {ticks : Nat → Tick} {now : Timestamp} {user : User} {clientId : Uuid} {db : Database}
  {proposal : ChangeProposal}

/-- A pending proposal that passes its checks ends completed exactly when its loop finishes. -/
theorem approve_completes_iff
    (found : db.tables.getProposal clientId proposal.id = some proposal)
    (pending : proposal.status = .pendingApproval)
    (admitted : gate db.tables user clientId approveRefusal = .ok ())
    (valid : preflight db.tables now user proposal = .ok none) :
    (∃ completed after, approve env ticks now user clientId proposal.id db =
        (.ok completed, after) ∧ completed.status = .completed ∧
        ∀ op ∈ completed.operations, op.status = .executed) ↔
      ∃ executed last, executeAll env ticks user clientId proposal.id
        (claimForExecution proposal.id db).2.tables proposal.operations =
          .finished executed last := by
  constructor
  · rintro ⟨completed, after, approved, status, -⟩
    cases ended : executeAll env ticks user clientId proposal.id
        (claimForExecution proposal.id db).2.tables proposal.operations with
    | finished executed last => exact ⟨executed, last, rfl⟩
    | refused seq error =>
      rw [approve_refused found pending admitted valid ended] at approved
      cases approved
      cases status
    | raised error =>
      obtain rfl := Tables.getProposal_clientId found
      have left : validateAndExecute env ticks now user proposal.claimed
          (claimForExecution proposal.id db).2 = _ := validateAndExecute_raised valid ended
      rw [approve_of_claim found pending admitted left] at approved
      cases approved
  · rintro ⟨executed, last, finished⟩
    obtain ⟨after, approved, -, -⟩ := approve_finished found pending admitted valid finished
    exact ⟨_, after, approved, rfl, (executeAll_finished finished).2.1⟩

end Approval

/-- A proposal that was staged on tables passes its checks on tables that differ from them in their
proposals only, until it expires. -/
theorem preflight_fresh {t : Tables} {tick : Tick} {clientId : Uuid} {chatId messageId : Option Uuid}
    {admin : User} {rawRequest summary : String} {operations : List StagedOperation}
    {calls : List (StageCall env)} {ttlMinutes : Int} {now : Timestamp}
    (role : admin.role = .admin)
    (made : List.Forall₂ (StagedBy t clientId admin) operations calls)
    (unexpired : now ≤ tick.now + ttlMinutes * 60 * second) (proposals : List ChangeProposal) :
    preflight { t with proposals } now admin (newProposal tick clientId chatId messageId admin.id
      rawRequest summary operations ttlMinutes) = .ok none := by
  have staged : ∀ op ∈ operations.mapIdx StagedOperation.persist, ∃ seq, ∃ call : StageCall env,
      ∃ tick written, stage env tick t clientId admin call = .ok written ∧
        op = written.operation.persist seq := by
    intro op inside
    obtain ⟨seq, bound, rfl⟩ := List.mem_mapIdx.mp inside
    obtain ⟨tick, written, done, same⟩ :=
      made.get bound (made.length_eq ▸ bound)
    exact ⟨seq, _, tick, written, done, by rw [same]; rfl⟩
  have standing : checkStanding { t with proposals } now admin (newProposal tick clientId chatId
      messageId admin.id rawRequest summary operations ttlMinutes) = .ok none := by
    have live : ¬tick.now + ttlMinutes * 60 * second < now := Int.not_lt.mpr unexpired
    simp only [checkStanding, newProposal, Option.any_some, live, decide_false, Bool.false_eq_true,
      ↓reduceIte]
    refine checkAuthorities_admin role _ fun op inside => ?_
    obtain ⟨seq, call, tick, written, done, rfl⟩ := staged op inside
    simp only [StagedOperation.persist, (standing_of_stage done).1, Option.map_none]
  have matched : (operations.mapIdx StagedOperation.persist).all
      (matchesLiveSnapshot { t with proposals } clientId) = true := by
    refine List.all_eq_true.mpr fun op inside => ?_
    obtain ⟨seq, call, tick, written, done, rfl⟩ := staged op inside
    exact matchesLiveSnapshot_of_stage done seq proposals
  rw [preflight, standing, Outcome.ok_bind]
  show (pure (if (operations.mapIdx StagedOperation.persist).all
    (matchesLiveSnapshot { t with proposals } clientId) then none else some staleReason)) = _
  rw [if_pos matched]
  rfl

/-- A proposal that was staged and created, and is approved by the same administrator before it
expires with no other write in between, ends completed with every operation executed exactly when
each of its calls fits those before it. -/
theorem fresh_proposal_completes_iff (env : Environment) (ticks : Nat → Tick) (tick : Tick)
    (db db' : Database) (clientId : Uuid) (admin : User) (role : admin.role = .admin)
    (calls : List (ToolCall env)) (operations : List StagedOperation)
    (collected : Handlers.collect db.tables clientId admin calls = .ok operations)
    (chatId messageId : Option Uuid) (rawRequest summary : String) (ttlMinutes : Int)
    (proposal : ChangeProposal)
    (created : createProposal tick db clientId chatId messageId admin.id rawRequest summary
      operations ttlMinutes = .ok (proposal, db'))
    (now : Timestamp) (unexpired : now ≤ tick.now + ttlMinutes * 60 * second)
    (ids : FreshIds db.tables ticks operations.length) :
    (∃ completed after, approve env ticks now admin clientId proposal.id db' =
        (.ok completed, after) ∧ completed.status = .completed ∧
        ∀ op ∈ completed.operations, op.status = .executed) ↔
      Compatible db.tables clientId []
        (calls.flatMap (Handlers.stageCalls db.tables clientId admin)) := by
  obtain ⟨filled, rfl, labels, tables⟩ := createProposal_ok created
  have made := stagedBy_collect collected
  have client : (db.tables.getClient clientId).isSome := by
    obtain ⟨op, rest, rfl⟩ := List.exists_cons_of_ne_nil filled
    obtain ⟨call, later, ⟨tick, written, done, -⟩, -⟩ := List.forall₂_cons_left_iff.mp made
    exact client_of_stage done
  have found : db'.tables.getProposal clientId _ = some (newProposal tick clientId chatId messageId
      admin.id rawRequest summary operations ttlMinutes) :=
    getProposal_created (congrArg Tables.proposals tables)
  have admitted : gate db'.tables admin clientId approveRefusal = .ok () := by
    obtain ⟨row, present⟩ := Option.isSome_iff_exists.mp client
    have kept : db'.tables.getClient clientId = some row := by rw [tables]; exact present
    simp [gate, ClientService.getClient, kept, ClientService.canAccess, role]
  have valid : preflight db'.tables now admin (newProposal tick clientId chatId messageId admin.id
      rawRequest summary operations ttlMinutes) = .ok none := by
    rw [tables]
    exact preflight_fresh role made unexpired _
  rw [approve_completes_iff found rfl admitted valid]
  obtain ⟨proposals, claimed⟩ : ∃ proposals, (claimForExecution (newProposal tick clientId chatId
      messageId admin.id rawRequest summary operations ttlMinutes).id db').2.tables =
        { db.tables with proposals } := by
    simp only [claimForExecution, Database.modifyProposal, Tables.modifyProposal, tables]
    exact ⟨_, rfl⟩
  have after : After db.tables ticks clientId ([] : List (StageCall env)) { db.tables with proposals } :=
    after_nil (claimed ▸ Database.consistent _) client
  rw [claimed]
  have ends := executeAll_finished_iff ids made labels after (by simp) (newProposal tick clientId
    chatId messageId admin.id rawRequest summary operations ttlMinutes).id
  simp only [List.length_nil, Nat.zero_add] at ends
  exact ends

/-- The clock reading and the identifiers of a new proposal. -/
def sampleProposalTick : Tick := ⟨10, 50, 51, 52⟩

/-- Rename a task, note on it, and delete it. -/
def sampleCalls : List (ToolCall sampleEnv) :=
  [.single (sampleTicks 0)
      (.planTaskUpdate 3 { emptyTaskUpdate with title := some (some ⟨"Spring", by decide⟩) }),
    .single (sampleTicks 1) (.planTaskAddNote 3 ⟨⟨"Ready", by decide⟩⟩), .bulkDelete [3]]

/-- The calls fit each other. -/
theorem sampleCalls_compatible : Compatible (sampleTables []) 2 []
    (sampleCalls.flatMap (Handlers.stageCalls (sampleTables []) 2 sampleAdmin)) := by
  refine ⟨⟨by simp, ?_, by decide, by decide, by decide, by decide, by decide, ?_⟩,
    by simp [Fits], by simp [Fits], trivial⟩
  · intro task found
    obtain rfl := Option.some.inj found
    rfl
  · intro assignee sent
    cases sent

set_option maxRecDepth 8000 in
/-- A task that is renamed, noted on and deleted by one proposal. -/
theorem sampleCalls_complete :
    ∃ operations proposal db', Handlers.collect (sampleTables []) 2 sampleAdmin sampleCalls =
        .ok operations ∧
      createProposal sampleProposalTick (sampleDatabase []) 2 none none 1 "tidy" "" operations 60 =
        .ok (proposal, db') ∧
      ∃ completed after, approve sampleEnv sampleTicks 20 sampleAdmin 2 proposal.id db' =
          (.ok completed, after) ∧ completed.status = .completed ∧
        ∀ op ∈ completed.operations, op.status = .executed :=
  ⟨_, _, _, rfl, rfl, (fresh_proposal_completes_iff sampleEnv sampleTicks sampleProposalTick
    (sampleDatabase []) _ 2 sampleAdmin rfl sampleCalls _ rfl none none "tidy" "" 60 _ rfl 20
    (by decide) ⟨by decide, by decide⟩).mpr sampleCalls_compatible⟩

set_option maxRecDepth 8000 in
/-- A bulk deletion that names a task twice stages both, and the second one is refused. -/
theorem repeated_delete_fails :
    ∃ operations proposal db' failed after,
      Handlers.collect (sampleTables []) 2 sampleAdmin
          ([.bulkDelete [3, 3]] : List (ToolCall sampleEnv)) = .ok operations ∧
      createProposal sampleProposalTick (sampleDatabase []) 2 none none 1 "tidy" "" operations 60 =
        .ok (proposal, db') ∧
      approve sampleEnv sampleTicks 20 sampleAdmin 2 proposal.id db' = (.ok failed, after) ∧
      failed.status = .failed ∧ failed.error = some "Operation 1 failed: Task not found." :=
  ⟨_, _, _, _, _, rfl, rfl, rfl, rfl, by decide⟩

end MarketingOS.ProposalService
