import MarketingOS.Verif.OperationFrames

/-! # Approval is all or nothing

What an approval commits: every operation with its audit row and the completed status, or the
failure alone. The loop over the operations is read once as a run lemma, by induction on the
operations; the claims of the callers follow from it. The last section finds the one way out of
an approval that commits neither. -/
namespace MarketingOS

namespace Tables

/-- A proposal is looked up by its own identifier. -/
theorem getProposal_id {t : Tables} {clientId proposalId : Uuid} {proposal : ChangeProposal}
    (found : t.getProposal clientId proposalId = some proposal) : proposal.id = proposalId :=
  congrArg Prod.fst (Table.get_key found)

/-- A proposal is looked up under its own client. -/
theorem getProposal_clientId {t : Tables} {clientId proposalId : Uuid} {proposal : ChangeProposal}
    (found : t.getProposal clientId proposalId = some proposal) : proposal.clientId = clientId :=
  congrArg Prod.snd (Table.get_key found)

/-- A write to a proposal that keeps its keys is seen by a lookup. -/
theorem getProposal_modify {t : Tables} {clientId proposalId : Uuid}
    (change : ChangeProposal → ChangeProposal) {proposal : ChangeProposal}
    (keeps : ∀ p, (change p).scoped = p.scoped)
    (found : t.getProposal clientId proposalId = some proposal) :
    (t.modifyProposal proposalId change).getProposal clientId proposalId =
      some (change proposal) := by
  have same := getProposal_id found
  simp only [getProposal] at found
  simp only [getProposal, modifyProposal, Table.get_modify_of_keeps keeps, found, Option.map_some,
    same, ↓reduceIte]

end Tables

/-- A committed write to a proposal that keeps its keys is seen by a lookup. -/
theorem Database.getProposal_modify {db : Database} {clientId proposalId : Uuid}
    (change : ChangeProposal → ChangeProposal) {proposal : ChangeProposal}
    (keeps : ∀ p, (change p).scoped = p.scoped)
    (found : db.tables.getProposal clientId proposalId = some proposal) :
    (db.modifyProposal proposalId change fun p => congrArg Prod.fst (keeps p)).tables.getProposal
      clientId proposalId = some (change proposal) := Tables.getProposal_modify change keeps found

/-- A proposal as `create_proposal` leaves it: pending, every operation pending and in `seq`
order, nobody's approval recorded. -/
structure ChangeProposal.Staged (proposal : ChangeProposal) : Prop where
  pending : proposal.status = .pendingApproval
  fresh : ∀ op ∈ proposal.operations, op.status = .pending
  inOrder : proposal.operations.Pairwise fun a b => a.seq < b.seq
  unapproved : proposal.approvedByUserId = none ∧ proposal.approvedAt = none ∧
    proposal.executedAt = none

/-- A claimed proposal: its status is the only difference. -/
def ChangeProposal.claimed (proposal : ChangeProposal) : ChangeProposal :=
  { proposal with status := .executing }

/-- A claim keeps the identifier. -/
@[simp] theorem ChangeProposal.claimed_id (proposal : ChangeProposal) :
    proposal.claimed.id = proposal.id := rfl

namespace ProposalService

/-- A new proposal is staged. -/
theorem newProposal_staged (tick : Tick) (clientId : Uuid) (chatId messageId : Option Uuid)
    (createdBy : Uuid) (rawRequest summary : String) (operations : List StagedOperation)
    (ttlMinutes : Int) :
    (newProposal tick clientId chatId messageId createdBy rawRequest summary operations
      ttlMinutes).Staged where
  pending := rfl
  fresh := by
    intro op inside
    simp only [newProposal, List.mem_mapIdx] at inside
    obtain ⟨seq, _, rfl⟩ := inside
    rfl
  inOrder := by
    simp only [newProposal, List.pairwise_iff_getElem, List.getElem_mapIdx]
    intro i j _ _ before
    exact before
  unapproved := ⟨rfl, rfl, rfl⟩

/-- What `create_proposal` commits is a staged proposal. -/
theorem createProposal_staged {tick : Tick} {db db' : Database} {clientId : Uuid}
    {chatId messageId : Option Uuid} {createdBy : Uuid} {rawRequest summary : String}
    {operations : List StagedOperation} {ttlMinutes : Int} {proposal : ChangeProposal}
    (created : createProposal tick db clientId chatId messageId createdBy rawRequest summary
      operations ttlMinutes = .ok (proposal, db')) :
    proposal.Staged ∧ db'.tables.proposals = db.tables.proposals ++ [proposal] := by
  unfold createProposal at created
  split at created
  · cases created
  dsimp only at created
  split at created
  · simp only [Outcome.bind_ok] at created
    obtain ⟨committed, stored, created⟩ := created
    cases Except.ok.inj created
    exact ⟨newProposal_staged tick clientId chatId messageId createdBy rawRequest summary operations
      ttlMinutes, congrArg Tables.proposals (commit_ok stored)⟩
  · cases created

/-- The refusal message of `approve` for a read-only account. -/
def approveRefusal : String := "Your account has read-only access and cannot approve changes."

/-- The claim of a pending proposal updates a row. -/
theorem claimed_pos {db : Database} {clientId proposalId : Uuid} {proposal : ChangeProposal}
    (found : db.tables.getProposal clientId proposalId = some proposal)
    (pending : proposal.status = .pendingApproval) :
    (claimForExecution proposalId db).1 ≠ 0 := by
  have inside : proposal ∈ db.tables.proposals := Table.get_mem found
  have selected : proposal ∈ db.tables.proposals.filter (fun p =>
      decide (p.id = proposalId) && decide (p.status = .pendingApproval)) := by
    simp [inside, Tables.getProposal_id found, pending]
  exact Nat.ne_of_gt (List.length_pos_of_mem selected)

/-- A claim moves a pending proposal to executing and no other proposal anywhere. -/
theorem getProposal_claim {db : Database} {clientId proposalId : Uuid} {proposal : ChangeProposal}
    (found : db.tables.getProposal clientId proposalId = some proposal) :
    (claimForExecution proposalId db).2.tables.getProposal clientId proposalId =
      some (if proposal.status = .pendingApproval then proposal.claimed else proposal) :=
  Tables.getProposal_modify
    (fun p => if p.status = .pendingApproval then { p with status := .executing } else p)
    (fun p => by split <;> rfl) found

/-- After the claim of a pending proposal the proposal reads as claimed. -/
theorem getProposal_claimed {db : Database} {clientId proposalId : Uuid} {proposal : ChangeProposal}
    (found : db.tables.getProposal clientId proposalId = some proposal)
    (pending : proposal.status = .pendingApproval) :
    (claimForExecution proposalId db).2.tables.getProposal clientId proposalId =
      some proposal.claimed := by
  rw [getProposal_claim found, if_pos pending]

section Loop

variable {env : Environment} {ticks : Nat → Tick} {user : User} {clientId proposalId : Uuid}

/-- What the loop leaves when no operation is refused: each operation executed in its place, one
audit row for each in the same order, no proposal touched, and tables that meet every
constraint. -/
theorem executeAll_finished {t t' : Tables} {operations executed : List ProposedOperation}
    (finished : executeAll env ticks user clientId proposalId t operations =
      .finished executed t') :
    executed.map ProposedOperation.seq = operations.map ProposedOperation.seq ∧
      (∀ op ∈ executed, op.status = .executed) ∧
      t'.auditLog = t.auditLog ++ executed.map (fun op =>
        auditRow (ticks op.seq) user clientId proposalId op) ∧
      t'.proposals = t.proposals ∧ (t.Consistent → t'.Consistent) := by
  induction operations generalizing t executed with
  | nil =>
    simp only [executeAll, LoopEnd.finished.injEq] at finished
    obtain ⟨rfl, rfl⟩ := finished
    simp
  | cons op rest ih =>
    simp only [executeAll] at finished
    cases turn : executeAndRecord env (ticks op.seq) user clientId proposalId t op with
    | error exc => cases exc <;> simp [turn] at finished
    | ok result =>
      obtain ⟨marked, middle⟩ := result
      simp only [turn] at finished
      cases later : executeAll env ticks user clientId proposalId middle rest with
      | refused => simp [later] at finished
      | raised => simp [later] at finished
      | finished done last =>
        simp only [later, LoopEnd.finished.injEq] at finished
        obtain ⟨rfl, rfl⟩ := finished
        obtain ⟨seq, status, audit, proposals, valid⟩ := executeAndRecord_ok turn
        obtain ⟨seqs, statuses, audits, kept, consistent⟩ := ih later
        refine ⟨by simp [seq, seqs], ?_, ?_, kept.trans proposals, fun _ => consistent valid⟩
        · simpa [status] using statuses
        · simp [audits, audit, seq]

/-- A loop whose first operations are executed and whose next one is refused ends refused. -/
theorem executeAll_refused {t t' : Tables} {before executed : List ProposedOperation}
    (rest : List ProposedOperation)
    {op : ProposedOperation} {error : AppError}
    (finished : executeAll env ticks user clientId proposalId t before = .finished executed t')
    (refused : executeOperation env (ticks op.seq) t' clientId op = .error (.app error)) :
    executeAll env ticks user clientId proposalId t (before ++ op :: rest) =
      .refused op.seq error := by
  induction before generalizing t executed with
  | nil =>
    simp only [executeAll, LoopEnd.finished.injEq] at finished
    obtain ⟨-, rfl⟩ := finished
    simp only [List.nil_append, executeAll, executeAndRecord, refused, bind, Except.bind]
  | cons first before ih =>
    simp only [executeAll] at finished
    cases turn : executeAndRecord env (ticks first.seq) user clientId proposalId t first with
    | error exc => cases exc <;> simp [turn] at finished
    | ok result =>
      obtain ⟨marked, middle⟩ := result
      simp only [turn] at finished
      cases later : executeAll env ticks user clientId proposalId middle before with
      | refused => simp [later] at finished
      | raised => simp [later] at finished
      | finished done last =>
        simp only [later, LoopEnd.finished.injEq] at finished
        obtain ⟨-, rfl⟩ := finished
        simp only [List.cons_append, executeAll, turn, ih later]

end Loop

/-- The operations of a proposal in order, after one of them was refused: it is failed with the
message, every other one is skipped, and nothing else of them changed. -/
theorem map_markRefused {before rest : List ProposedOperation} {op : ProposedOperation}
    (message : String)
    (fresh : ∀ o ∈ before ++ op :: rest, o.status = .pending)
    (inOrder : (before ++ op :: rest).Pairwise fun a b => a.seq < b.seq) :
    (before ++ op :: rest).map (markRefused op.seq message) =
      before.map (fun o => { o with status := .skipped }) ++
        { op with status := .failed, error := some message } ::
        rest.map (fun o => { o with status := .skipped }) := by
  simp only [List.pairwise_append, List.pairwise_cons] at inOrder
  obtain ⟨-, ⟨later, -⟩, earlier⟩ := inOrder
  have skips : ∀ o ∈ before ++ op :: rest, o.seq ≠ op.seq →
      markRefused op.seq message o = { o with status := .skipped } := by
    intro o inside apart
    simp only [markRefused, apart, ↓reduceIte, fresh o inside]
  have first : before.map (markRefused op.seq message) =
      before.map (fun o => { o with status := .skipped }) :=
    List.map_congr_left fun o inside =>
      skips o (by simp [inside]) (Nat.ne_of_lt (earlier o inside op (by simp)))
  have last : rest.map (markRefused op.seq message) =
      rest.map (fun o => { o with status := .skipped }) :=
    List.map_congr_left fun o inside =>
      skips o (by simp [inside]) (Nat.ne_of_gt (later o inside))
  simp only [List.map_append, List.map_cons, first, last, markRefused, ↓reduceIte]

section Approve

variable {env : Environment} {ticks : Nat → Tick} {now : Timestamp} {user : User}
  {clientId : Uuid} {db : Database} {proposal : ChangeProposal}

/-- An admitted approval of a pending proposal commits what the validation and execution of the
claimed proposal commit, and returns the proposal read afterwards. -/
theorem approve_of_claim {result : Outcome Unit} {after : Database}
    (found : db.tables.getProposal clientId proposal.id = some proposal)
    (pending : proposal.status = .pendingApproval)
    (admitted : gate db.tables user clientId approveRefusal = .ok ())
    (ended : validateAndExecute env ticks now user proposal.claimed
      (claimForExecution proposal.id db).2 = (result, after)) :
    approve env ticks now user clientId proposal.id db =
      (result >>= fun _ => getProposal after.tables clientId proposal.id, after) := by
  have read : getProposal db.tables clientId proposal.id = .ok proposal := by
    simp only [getProposal, found]
  have reread : getProposal (claimForExecution proposal.id db).2.tables clientId proposal.id =
      .ok proposal.claimed := by
    simp only [getProposal, getProposal_claimed found pending]
  have entry : (do
      gate db.tables user clientId "Your account has read-only access and cannot approve changes."
      getProposal db.tables clientId proposal.id) = .ok proposal := by
    rw [← approveRefusal, admitted, read]
    rfl
  simp only [approve, entry, claimed_pos found pending, ↓reduceIte, reread, ended]

/-- A validation whose loop is refused commits the failure. -/
theorem validateAndExecute_refused {seq : Nat} {error : AppError}
    (valid : preflight db.tables now user proposal = .ok none)
    (refused : executeAll env ticks user proposal.clientId proposal.id db.tables
      proposal.operations = .refused seq error) :
    validateAndExecute env ticks now user proposal db =
      (.ok (), db.modifyProposal proposal.id (recordFailure seq error.message)) := by
  simp only [validateAndExecute, valid, refused]

/-- A validation whose loop raises changes nothing. -/
theorem validateAndExecute_raised {error : PyError}
    (valid : preflight db.tables now user proposal = .ok none)
    (raised : executeAll env ticks user proposal.clientId proposal.id db.tables
      proposal.operations = .raised error) :
    validateAndExecute env ticks now user proposal db = (.error (.other error), db) := by
  simp only [validateAndExecute, valid, raised]

/-- A validation whose loop finishes commits what the loop wrote and the completed proposal. -/
theorem validateAndExecute_finished {executed : List ProposedOperation} {t : Tables}
    (valid : preflight db.tables now user proposal = .ok none)
    (finished : executeAll env ticks user proposal.clientId proposal.id db.tables
      proposal.operations = .finished executed t) :
    ∃ after, validateAndExecute env ticks now user proposal db = (.ok (), after) ∧
      after.tables = (t.modifyProposal proposal.id (complete user now executed)).stored := by
  have consistent := (executeAll_finished finished).2.2.2.2 db.consistent
  have stored : (t.modifyProposal proposal.id (complete user now executed)).Consistent :=
    consistent.modifyProposal proposal.id fun _ => rfl
  refine ⟨⟨_, stored.stored, Tables.stored_stored _⟩, ?_, rfl⟩
  simp only [validateAndExecute, valid, finished, commit_of_consistent stored]

/-- An approval whose loop is refused commits the failure, and nothing else. -/
theorem approve_refused {seq : Nat} {error : AppError}
    (found : db.tables.getProposal clientId proposal.id = some proposal)
    (pending : proposal.status = .pendingApproval)
    (admitted : gate db.tables user clientId approveRefusal = .ok ())
    (valid : preflight db.tables now user proposal = .ok none)
    (refused : executeAll env ticks user clientId proposal.id
      (claimForExecution proposal.id db).2.tables proposal.operations = .refused seq error) :
    approve env ticks now user clientId proposal.id db =
      (.ok (recordFailure seq error.message proposal.claimed),
        (claimForExecution proposal.id db).2.modifyProposal proposal.id
          (recordFailure seq error.message)) := by
  obtain rfl := Tables.getProposal_clientId found
  have ended : validateAndExecute env ticks now user proposal.claimed
      (claimForExecution proposal.id db).2 = _ := validateAndExecute_refused valid refused
  have reread := Database.getProposal_modify (recordFailure seq error.message)
    (fun _ => rfl) (getProposal_claimed found pending)
  rw [approve_of_claim found pending admitted ended]
  simp only [bind, Except.bind, getProposal, ChangeProposal.claimed_id, reread]

/-- An approval whose loop finishes commits what the loop wrote and the completed proposal. -/
theorem approve_finished {executed : List ProposedOperation} {t : Tables}
    (found : db.tables.getProposal clientId proposal.id = some proposal)
    (pending : proposal.status = .pendingApproval)
    (admitted : gate db.tables user clientId approveRefusal = .ok ())
    (valid : preflight db.tables now user proposal = .ok none)
    (finished : executeAll env ticks user clientId proposal.id
      (claimForExecution proposal.id db).2.tables proposal.operations = .finished executed t) :
    ∃ after, approve env ticks now user clientId proposal.id db =
        (.ok (complete user now executed proposal.claimed), after) ∧
      after.tables = (t.modifyProposal proposal.id (complete user now executed)).stored ∧
      after.tables.getProposal clientId proposal.id =
        some (complete user now executed proposal.claimed) := by
  obtain rfl := Tables.getProposal_clientId found
  obtain ⟨after, ended, stored⟩ : ∃ after, validateAndExecute env ticks now user proposal.claimed
      (claimForExecution proposal.id db).2 = (.ok (), after) ∧ _ :=
    validateAndExecute_finished valid finished
  have kept := (executeAll_finished finished).2.2.2.1
  have claimed : t.getProposal proposal.clientId proposal.id = some proposal.claimed := by
    rw [Tables.getProposal, kept]
    exact getProposal_claimed found pending
  have reread : after.tables.getProposal proposal.clientId proposal.id =
      some (complete user now executed proposal.claimed) := by
    rw [stored]
    exact Tables.getProposal_modify _ (fun _ => rfl) claimed
  refine ⟨after, ?_, stored, reread⟩
  rw [approve_of_claim found pending admitted ended]
  simp only [bind, Except.bind, getProposal, reread]

/-- Approving a staged proposal is all or nothing. When the operations before one are executed
and that one is refused with an `AppError`, every row outside the proposals is as it was, and
the proposal records the failure: that operation failed, every other one skipped, each with
its staged identifier, label and diff. When no operation is refused, all are executed, the
proposal is completed, and one audit row for each was added, in `seq` order. -/
theorem approve_all_or_nothing (env : Environment) (ticks : Nat → Tick) (now : Timestamp)
    (user : User) (clientId : Uuid) (db : Database) (proposal : ChangeProposal)
    (found : db.tables.getProposal clientId proposal.id = some proposal) (staged : proposal.Staged)
    (admitted : gate db.tables user clientId approveRefusal = .ok ())
    (valid : preflight db.tables now user proposal = .ok none) :
    (∀ before op rest executed t error, proposal.operations = before ++ op :: rest →
      executeAll env ticks user clientId proposal.id (claimForExecution proposal.id db).2.tables
        before = .finished executed t →
      executeOperation env (ticks op.seq) t clientId op = .error (.app error) →
      ∃ failed after, approve env ticks now user clientId proposal.id db = (.ok failed, after) ∧
        after.tables = { db.tables with proposals := after.tables.proposals } ∧
        after.tables.getProposal clientId proposal.id = some failed ∧
        failed.status = .failed ∧ failed.approvedByUserId = none ∧ failed.approvedAt = none ∧
        failed.executedAt = none ∧
        failed.operations = before.map (fun o => { o with status := .skipped }) ++
          { op with status := .failed, error := some error.message } ::
          rest.map (fun o => { o with status := .skipped })) ∧
    ∀ executed t,
      executeAll env ticks user clientId proposal.id (claimForExecution proposal.id db).2.tables
        proposal.operations = .finished executed t →
      ∃ completed after,
        approve env ticks now user clientId proposal.id db = (.ok completed, after) ∧
        after.tables.getProposal clientId proposal.id = some completed ∧
        completed.status = .completed ∧ completed.approvedByUserId = some user.id ∧
        completed.approvedAt = some now ∧ completed.executedAt = some now ∧
        completed.operations = executed ∧
        executed.map ProposedOperation.seq = proposal.operations.map ProposedOperation.seq ∧
        (∀ op ∈ executed, op.status = .executed) ∧
        (executed.Pairwise fun a b => a.seq < b.seq) ∧
        after.tables.auditLog = db.tables.auditLog ++ executed.map fun op =>
          auditRow (ticks op.seq) user clientId proposal.id op := by
  constructor
  · intro before op rest executed t error split finished refused
    have ends := executeAll_refused rest finished refused
    rw [← split] at ends
    refine ⟨_, _, approve_refused found staged.pending admitted valid ends, rfl, ?_, rfl,
      staged.unapproved.1, staged.unapproved.2.1, staged.unapproved.2.2, ?_⟩
    · exact Database.getProposal_modify (recordFailure op.seq error.message)
        (fun _ => rfl) (getProposal_claimed found staged.pending)
    · have fresh := staged.fresh
      have inOrder := staged.inOrder
      rw [split] at fresh inOrder
      simp only [recordFailure, ChangeProposal.claimed, split]
      exact map_markRefused error.message fresh inOrder
  · intro executed t finished
    obtain ⟨seqs, statuses, audit, -, -⟩ := executeAll_finished finished
    obtain ⟨after, approved, stored, reread⟩ :=
      approve_finished found staged.pending admitted valid finished
    have ordered : (executed.map ProposedOperation.seq).Pairwise (· < ·) := by
      rw [seqs, List.pairwise_map]
      exact staged.inOrder
    refine ⟨_, after, approved, reread, rfl, rfl, rfl, rfl, rfl, seqs, statuses,
      List.pairwise_map.mp ordered, ?_⟩
    rw [stored]
    exact audit

end Approve

end ProposalService

/-! ## A sample board

One client with one task, one administrator, and operations on the task. -/

/-- An administrator. -/
def sampleAdmin : User := ⟨1, "ada@example.com", "Ada", .admin, true, 0⟩

/-- A client without brand rows. -/
def sampleClient : Client where
  id := 2
  name := some "Acme"
  businessType := none
  industry := none
  website := none
  location := none
  timezone := none
  language := none
  markets := none
  aboutBrand := none
  brandVoice := none
  brandExtracted := none
  colorGuidelines := none
  logoUrl := none
  status := some .active
  updatedAt := 0
  brandColors := []
  brandFonts := []

/-- An undated task of the client. -/
def sampleTask : PlanTask where
  id := 3
  clientId := 2
  title := some "Draft"
  description := none
  requirements := none
  category := some .strategy
  status := some .todo
  priority := some .medium
  assigneeId := none
  eventId := none
  startDate := none
  dueDate := none
  startTime := none
  endTime := none
  createdBy := some 1
  archived := some false
  createdAt := 0
  updatedAt := 0

/-- A pending proposal over some operations. -/
def sampleProposal (operations : List ProposedOperation) : ChangeProposal where
  id := 4
  clientId := 2
  chatId := none
  messageId := none
  createdByUserId := some 1
  status := .pendingApproval
  rawRequest := some "rename"
  summary := none
  error := none
  createdAt := 0
  expiresAt := none
  approvedByUserId := none
  approvedAt := none
  executedAt := none
  operations := operations

/-- One client, one administrator and one task. -/
def sampleTables (proposals : List ChangeProposal) : Tables where
  clients := [sampleClient]
  users := [sampleAdmin]
  assignments := []
  planTasks := [sampleTask]
  planTaskNotes := []
  planTaskAssets := []
  events := []
  intelJobs := []
  auditLog := []
  proposals := proposals

/-- The committed sample tables. -/
def sampleDatabase (proposals : List ChangeProposal)
    (distinct : (proposals.map ChangeProposal.id).Nodup := by decide) : Database where
  tables := sampleTables proposals
  consistent := by
    have others : (sampleTables []).Consistent := by decide
    obtain ⟨clients, users, assignments, pairs, tasks, ids, notes, events, -⟩ := others
    exact ⟨clients, users, assignments, pairs, tasks, ids, notes, events, distinct⟩
  columns := rfl

/-- A partial task update that sends nothing. -/
def emptyTaskUpdate : PlanTaskUpdate :=
  ⟨none, none, none, none, none, none, none, none, none, none, none, none, rfl⟩

/-- A staged operation on a task. -/
def sampleTaskOperation (seq : Nat) (kind : ProposedOperationType) (taskId : Uuid)
    (payload : Payload) : ProposedOperation :=
  ⟨seq, kind, "plan_task", some taskId, some "Draft", none, some payload, none, none, false,
    .pending, none⟩

/-- Rename the task. -/
def sampleRename : ProposedOperation :=
  sampleTaskOperation 0 .update 3
    [("data", PlanTaskUpdate.encode
      { emptyTaskUpdate with title := some (some ⟨"Final", by decide⟩) })]

/-- Delete a task that is gone. -/
def sampleDeleteGone : ProposedOperation := sampleTaskOperation 1 .delete 9 []

/-- Intelligence is on, and there is one time zone. -/
def sampleEnv : Environment := ⟨true, ["UTC"]⟩

/-- One clock reading, and fresh identifiers for each operation. -/
def sampleTicks (seq : Nat) : Tick :=
  ⟨10, 100 + BitVec.ofNat 128 seq, 200 + BitVec.ofNat 128 seq, 300 + BitVec.ofNat 128 seq⟩

namespace ProposalService

set_option maxRecDepth 4000 in
/-- A rename followed by the deletion of a task that is gone: the rename is undone, and the
operations are skipped and failed. -/
theorem rename_before_refused_delete :
    ∃ failed after, approve sampleEnv sampleTicks 20 sampleAdmin 2 4
        (sampleDatabase [sampleProposal [sampleRename, sampleDeleteGone]]) = (.ok failed, after) ∧
      after.tables.planTasks = [sampleTask] ∧
      failed.operations.map ProposedOperation.status = [.skipped, .failed] := by
  obtain ⟨failed, after, approved, tables, -, -, -, -, -, operations⟩ :=
    (approve_all_or_nothing sampleEnv sampleTicks 20 sampleAdmin 2
      (sampleDatabase [sampleProposal [sampleRename, sampleDeleteGone]])
      (sampleProposal [sampleRename, sampleDeleteGone]) (by decide)
      ⟨by decide, by decide, by decide, by decide⟩ (by decide) (by decide)).1
      [sampleRename] sampleDeleteGone [] _ _ ⟨.notFound, "Task not found."⟩ rfl rfl (by decide)
  exact ⟨failed, after, approved, congrArg Tables.planTasks tables, by rw [operations]; rfl⟩

end ProposalService

end MarketingOS
