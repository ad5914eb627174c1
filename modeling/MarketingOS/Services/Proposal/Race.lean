import MarketingOS.Base.Machine
import MarketingOS.Models.RowWrites
import MarketingOS.Services.Proposal.Lifecycle

/-!
# Concurrent calls on one proposal

Any number of `approve` and `reject` calls on one proposal, one transactional step at a time,
among the transactions of other users. Isolation is read committed: a read sees what is
committed by then and what its own session wrote, and a row an open session wrote is locked
until that session ends. Nothing else is locked.
-/
namespace MarketingOS.ProposalRace

open ProposalService

/-- How far one call has come. -/
inductive Call where
  | idle
  /-- The call raised before it read the proposal, or a rejection found it decided. -/
  | turnedAway (exc : Exc)
  /-- `approve` has read the proposal. -/
  | admitted (user : User)
  /-- The claim updated no row. -/
  | lost
  /-- The losing call has read the proposal back. -/
  | returned (status : ProposalStatus)
  /-- The claim updated a row and is committed. -/
  | claimed (user : User)
  /-- The authority checks have passed, and so has the staleness check of some operations. -/
  | checking (user : User) (now : Timestamp) (checked rest : List ProposedOperation)
  /-- Some operations are executed, each at its tick, in the open session, whose tables these
  are. -/
  | applying (user : User) (now : Timestamp) (session : Tables)
      (executed : List (Tick × ProposedOperation)) (rest : List ProposedOperation)
  /-- A check failed; the failure is not recorded yet. -/
  | unfit (reason : String)
  /-- An operation was refused and the session rolled back; the failure is not recorded yet. -/
  | refused (seq : Nat) (message : String)
  | completed (user : User) (executed : List (Tick × ProposedOperation))
  | failed
  /-- An exception nothing handles left the call without a commit. -/
  | crashed (exc : Exc)
  /-- `reject` has read the proposal as pending. -/
  | rejectable (reason : Option String)
  /-- `reject` has committed. -/
  | rejected
deriving DecidableEq

/-- What is committed, how far every call is, and the entities others have edited since the
operations were staged. -/
structure World where
  db : Database
  calls : List Call
  edited : List Entity

/-- One transactional step. -/
inductive Label where
  /-- `approve` runs its gate and reads the proposal. -/
  | readForApproval (c : Nat) (user : User)
  /-- Phase 1: the claim and its commit. -/
  | claim (c : Nat)
  /-- The losing call refreshes the proposal. -/
  | readBack (c : Nat)
  /-- Phase 2 begins: expiry and authority. -/
  | validate (c : Nat) (now : Timestamp)
  /-- Compare the next staged snapshot with its live row; after the last one, go on. -/
  | check (c : Nat)
  /-- Execute the next operation and flush. -/
  | execute (c : Nat) (tick : Tick)
  /-- Commit the executed operations. -/
  | finish (c : Nat)
  /-- Commit a failure. -/
  | record (c : Nat)
  /-- `reject` runs its gate, reads the proposal and checks its status. -/
  | readForRejection (c : Nat) (user : User) (reason : Option String)
  /-- `reject` writes and commits. -/
  | cancel (c : Nat)
  /-- Another user's transaction commits. -/
  | edit (writes : List RowWrite)

namespace World

/-- The world after a call has moved. -/
def move (w : World) (c : Nat) (call : Call) : World := { w with calls := w.calls.set c call }

/-- The world after a call has committed and moved. -/
def commit (w : World) (c : Nat) (call : Call) (db : Database) : World :=
  { w with db := db, calls := w.calls.set c call }

end World

/-- The entity an operation was staged on, with the snapshot of its `updated_at`. -/
def target (clientId : Uuid) (op : ProposedOperation) : Option (Entity × Timestamp) :=
  match op.baseSnapshot, op.entityId with
  | some snapshot, some entityId =>
    match op.entityType with
    | "plan_task" => some (.planTask clientId entityId, snapshot)
    | "client" | "client_brand" => some (.client entityId, snapshot)
    | "user" => some (.user entityId, snapshot)
    | _ => none
  | _, _ => none

/-- What an open session sees of another transaction. -/
def Call.observe (writes : List RowWrite) : Call → Call
  | .applying user now session executed rest =>
    .applying user now (RowWrite.applyAll session writes) executed rest
  | call => call

/-- Whether an open session leaves a row another transaction writes unlocked. -/
def Call.unlocked (db : Database) (writes : List RowWrite) : Call → Bool
  | .applying _ _ session _ _ => writes.all (RowWrite.sameRow db.tables session)
  | _ => true

section Steps

variable (env : Environment) (proposal : ChangeProposal)

/-- The proposal as it is committed. -/
def World.stored (w : World) : Option ChangeProposal :=
  w.db.tables.getProposal proposal.clientId proposal.id

/-- What another transaction may commit while the proposal is decided: rows under their own
keys, none of which an open session has locked; an edited entity with a later `updated_at`, a
new one under an identifier no operation was staged on; and no audit row of the proposal. -/
def editable (w : World) (writes : List RowWrite) : Bool :=
  writes.all RowWrite.keyed && writes.all (RowWrite.advances w.db.tables) &&
  w.calls.all (Call.unlocked w.db writes) &&
  writes.all (fun write => match write with
    | .audit row => decide (row.proposalId ≠ some proposal.id)
    | _ => true) &&
  (RowWrite.entities writes).all (fun entity => (entity.version w.db.tables).isSome ||
    proposal.operations.all fun op =>
      (target proposal.clientId op).all fun staged => decide (staged.1 ≠ entity))

/-- Where `approve` stands after its gate and its first read. -/
def enter (t : Tables) (user : User) : Call :=
  match (do
    gate t user proposal.clientId "Your account has read-only access and cannot approve changes."
    getProposal t proposal.clientId proposal.id) with
  | .error exc => .turnedAway exc
  | .ok _ => .admitted user

/-- Where `approve` stands after the expiry and authority checks of the proposal it read. -/
def validated (t : Tables) (now : Timestamp) (user : User) (read : ChangeProposal) : Call :=
  match checkStanding t now user read with
  | .error exc => .crashed exc
  | .ok (some reason) => .unfit reason
  | .ok none => .checking user now [] read.operations

/-- Where `approve` stands after one turn of the staleness loop. -/
def checkNext (t : Tables) (user : User) (now : Timestamp) (checked : List ProposedOperation) :
    List ProposedOperation → Call
  | [] => .applying user now t [] checked
  | op :: rest =>
    if matchesLiveSnapshot t proposal.clientId op then .checking user now (checked ++ [op]) rest
    else .unfit staleReason

/-- Where `approve` stands after one turn of the execution loop. -/
def executeNext (tick : Tick) (user : User) (now : Timestamp) (session : Tables)
    (executed : List (Tick × ProposedOperation)) (op : ProposedOperation)
    (rest : List ProposedOperation) : Call :=
  match executeAndRecord env tick user proposal.clientId proposal.id session op with
  | .error (.app error) => .refused op.seq error.message
  | .error exc => .crashed exc
  | .ok (marked, session) => .applying user now session (executed ++ [(tick, marked)]) rest

/-- What the commit of the executed operations sends: the session's rows, and the proposal
written over what is committed of it by then. -/
def finished (db : Database) (user : User) (now : Timestamp) (session : Tables)
    (executed : List (Tick × ProposedOperation)) : Tables :=
  { session with proposals := db.tables.proposals }.modifyProposal proposal.id
    (complete user now (executed.map Prod.snd))

/-- The audit rows of the proposal. -/
def auditOf (t : Tables) : List AuditLog :=
  t.auditLog.filter fun row => decide (row.proposalId = some proposal.id)

/-- The audit rows of executed operations, one for each in their order. -/
def auditRows (user : User) (executed : List (Tick × ProposedOperation)) : List AuditLog :=
  executed.map fun turn => auditRow turn.1 user proposal.clientId proposal.id turn.2

/-- The step function. -/
def next (w : World) : Label → Option World
  | .readForApproval c user =>
    match w.calls[c]? with
    | some .idle => some (w.move c (enter proposal w.db.tables user))
    | _ => none
  | .claim c =>
    match w.calls[c]? with
    | some (.admitted user) =>
      let (claimed, db) := claimForExecution proposal.id w.db
      some (w.commit c (if claimed = 0 then .lost else .claimed user) db)
    | _ => none
  | .readBack c =>
    match w.calls[c]?, w.stored proposal with
    | some .lost, some read => some (w.move c (.returned read.status))
    | _, _ => none
  | .validate c now =>
    match w.calls[c]?, w.stored proposal with
    | some (.claimed user), some read => some (w.move c (validated w.db.tables now user read))
    | _, _ => none
  | .check c =>
    match w.calls[c]? with
    | some (.checking user now checked rest) =>
      some (w.move c (checkNext proposal w.db.tables user now checked rest))
    | _ => none
  | .execute c tick =>
    match w.calls[c]? with
    | some (.applying user now session executed (op :: rest)) =>
      some (w.move c (executeNext env proposal tick user now session executed op rest))
    | _ => none
  | .finish c =>
    match w.calls[c]? with
    | some (.applying user now session executed []) =>
      match MarketingOS.commit (finished proposal w.db user now session executed) with
      | .error exc => some (w.move c (.crashed exc))
      | .ok db => some (w.commit c (.completed user executed) db)
    | _ => none
  | .record c =>
    match w.calls[c]? with
    | some (.unfit reason) =>
      some (w.commit c .failed
        (w.db.modifyProposal proposal.id (failPreflight reason) (failPreflight_id reason)))
    | some (.refused seq message) =>
      some (w.commit c .failed (w.db.modifyProposal proposal.id (recordFailure seq message)
        (recordFailure_id seq message)))
    | _ => none
  | .readForRejection c user reason =>
    match w.calls[c]? with
    | some .idle =>
      match checkRejectable w.db.tables user proposal.clientId proposal.id with
      | .error exc => some (w.move c (.turnedAway exc))
      | .ok () => some (w.move c (.rejectable reason))
    | _ => none
  | .cancel c =>
    match w.calls[c]? with
    | some (.rejectable reason) =>
      some (w.commit c .rejected (w.db.modifyProposal proposal.id (ProposalService.cancel reason)
        (cancel_id reason)))
    | _ => none
  | .edit writes =>
    if editable proposal w writes then
      match MarketingOS.commit (RowWrite.applyAll w.db.tables writes) with
      | .error _ => none
      | .ok db => some ⟨db, w.calls.map (Call.observe writes),
          w.edited ++ RowWrite.entities writes⟩
    else none

/-- A world just after the proposal was created: it is pending, nothing of it is in the audit
trail, every call is idle, and exactly the entities whose `updated_at` has moved since their
snapshot have been edited. -/
structure Start (w : World) : Prop where
  pending : w.stored proposal = some proposal ∧ proposal.status = .pendingApproval
  untraced : auditOf proposal w.db.tables = []
  idle : ∀ call ∈ w.calls, call = .idle
  snapshots : ∀ op ∈ proposal.operations, ∀ entity snapshot,
    target proposal.clientId op = some (entity, snapshot) →
      (∀ version, entity.version w.db.tables = some version → snapshot ≤ version) ∧
      (entity ∈ w.edited ↔ entity.version w.db.tables ≠ some snapshot)

/-- The machine of the concurrent calls on one proposal. -/
def machine : Machine World Label where
  start := Start proposal
  next := next env proposal

end Steps

end MarketingOS.ProposalRace
