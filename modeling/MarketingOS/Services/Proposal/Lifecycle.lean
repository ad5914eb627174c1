import MarketingOS.Services.Proposal.Staging

/-!
# The proposal lifecycle

Creating, rejecting and approving a change proposal. `approve` claims the proposal in a
transaction of its own, validates it and executes its operations in a second one, and records
a failed operation in a third.
-/
namespace MarketingOS

namespace ProposalService

/-- The row `create_proposal` adds, with one operation row for each staged operation. -/
def newProposal (tick : Tick) (clientId : Uuid) (chatId messageId : Option Uuid) (createdBy : Uuid)
    (rawRequest summary : String) (operations : List StagedOperation) (ttlMinutes : Int) :
    ChangeProposal where
  id := tick.rowId
  clientId := clientId
  chatId := chatId
  messageId := messageId
  createdByUserId := some createdBy
  status := .pendingApproval
  rawRequest := some (clip maxText rawRequest)
  summary := if summary = "" then none else some (clip maxText summary)
  error := none
  createdAt := tick.now
  expiresAt := some (tick.now + ttlMinutes * 60 * second)
  approvedByUserId := none
  approvedAt := none
  executedAt := none
  operations := operations.mapIdx StagedOperation.persist

/-- `create_proposal`. -/
def createProposal (tick : Tick) (db : Database) (clientId : Uuid) (chatId messageId : Option Uuid)
    (createdBy : Uuid) (rawRequest summary : String) (operations : List StagedOperation)
    (ttlMinutes : Int) : Outcome (ChangeProposal × Database) :=
  if operations.isEmpty then badRequest "A proposal must contain at least one operation."
  else
    let proposal := newProposal tick clientId chatId messageId createdBy rawRequest summary
      operations ttlMinutes
    if proposal.operations.all fun op => fits 200 op.entityLabel then do
      let db ← commit { db.tables with proposals := db.tables.proposals ++ [proposal] }
      pure (proposal, db)
    else raised .dbapiError

/-- `get_proposal`. -/
def getProposal (t : Tables) (clientId proposalId : Uuid) : Outcome ChangeProposal :=
  match t.getProposal clientId proposalId with
  | none => notFound "Proposal not found."
  | some proposal => .ok proposal

/-- What `approve` and `reject` check before they read the proposal: the client is accessible
and the account is not read-only. -/
def gate (t : Tables) (user : User) (clientId : Uuid) (message : String) : Outcome Unit := do
  let _ ← ClientService.getClient t user clientId
  if user.role = .user then forbidden message else pure ()

/-- What `reject` writes. -/
def cancel (reason : Option String) (proposal : ChangeProposal) : ChangeProposal :=
  { proposal with
    status := .cancelled
    error := match reason with
      | none => proposal.error
      | some reason => if reason = "" then proposal.error else some (clip maxText reason) }

/-- A cancellation keeps the identifier. -/
theorem cancel_id (reason : Option String) (proposal : ChangeProposal) :
    (cancel reason proposal).id = proposal.id := rfl

/-- The read half of `reject`: the gate, the lookup and the status check. -/
def checkRejectable (t : Tables) (user : User) (clientId proposalId : Uuid) : Outcome Unit := do
  gate t user clientId "Your account has read-only access and cannot reject changes."
  let proposal ← getProposal t clientId proposalId
  if proposal.status = .pendingApproval then pure ()
  else conflict "This proposal is no longer pending approval."

/-- `reject`, with no other transaction between its read and its write. -/
def reject (db : Database) (user : User) (clientId proposalId : Uuid) (reason : Option String) :
    Outcome Unit × Database :=
  match checkRejectable db.tables user clientId proposalId with
  | .error exc => (.error exc, db)
  | .ok () => (.ok (), db.modifyProposal proposalId (cancel reason) (cancel_id reason))

/-- `claim_for_execution` — compare-and-swap `pending_approval -> executing`, with the number of
rows updated. -/
def claimForExecution (proposalId : Uuid) (db : Database) : Nat × Database :=
  let pending := db.tables.proposals.filter fun p =>
    decide (p.id = proposalId) && decide (p.status = .pendingApproval)
  let swap (p : ChangeProposal) : ChangeProposal :=
    if p.status = .pendingApproval then { p with status := .executing } else p
  (pending.length, db.modifyProposal proposalId swap (by intro p; dsimp only [swap]; split <;> rfl))

/-- What `_fail_preflight` writes. -/
def failPreflight (reason : String) (proposal : ChangeProposal) : ChangeProposal :=
  { proposal with status := .failed, error := some reason }

/-- A failed preflight keeps the identifier. -/
theorem failPreflight_id (reason : String) (proposal : ChangeProposal) :
    (failPreflight reason proposal).id = proposal.id := rfl

/-- `_matches_live_snapshot` — whether the live row is the one the operation was staged on. -/
def matchesLiveSnapshot (t : Tables) (clientId : Uuid) (op : ProposedOperation) : Bool :=
  match op.baseSnapshot, op.entityId with
  | some snapshot, some entityId =>
    match op.entityType with
    | "plan_task" => (t.getTask clientId entityId).any fun task => task.updatedAt = snapshot
    | "client" | "client_brand" =>
      (t.getClient entityId).any fun client => client.updatedAt = snapshot
    | "user" => (t.getUser entityId).any fun user => user.updatedAt = snapshot
    | _ => true
  | _, _ => true

/-- The capability and role check of one operation: nothing, or the reason to fail. An unknown
capability name is no capability at all, and raises. -/
def checkAuthority (user : User) (caps : List ClientCapability) (op : ProposedOperation) :
    Outcome (Option String) := do
  let lost ← match op.requiredCapability with
    | none => pure none
    | some "" => pure none
    | some name => do
      let capability ← Outcome.ofOption .valueError (Enumeration.ofValue name)
      pure (if caps.contains capability then none else some
        s!"You no longer have the '{name}' capability required for this change.")
  match lost with
  | some reason => pure (some reason)
  | none =>
    pure (if op.requiresAdmin ∧ user.role ≠ .admin then
      some "Administrator privileges are required." else none)

/-- The authority checks of all operations, up to the first that fails. -/
def checkAuthorities (user : User) (caps : List ClientCapability) :
    List ProposedOperation → Outcome (Option String)
  | [] => .ok none
  | op :: rest => do
    let reason ← checkAuthority user caps op
    match reason with
    | some reason => pure (some reason)
    | none => checkAuthorities user caps rest

/-- The expiry and authority checks of `_validate_and_execute`. -/
def checkStanding (t : Tables) (now : Timestamp) (user : User) (proposal : ChangeProposal) :
    Outcome (Option String) :=
  if proposal.expiresAt.any fun expiresAt => expiresAt < now then
    .ok (some "This proposal has expired.")
  else
    checkAuthorities user (ClientService.effectiveCapabilities t user proposal.clientId)
      proposal.operations

/-- The reason to fail a proposal one of whose rows was edited. -/
def staleReason : String :=
  "This has changed since the proposal was created. Please review the updated values."

/-- The checks of `_validate_and_execute` before the first operation is executed: expiry,
authority, staleness. -/
def preflight (t : Tables) (now : Timestamp) (user : User) (proposal : ChangeProposal) :
    Outcome (Option String) := do
  let reason ← checkStanding t now user proposal
  match reason with
  | some reason => pure (some reason)
  | none =>
    pure (if proposal.operations.all (matchesLiveSnapshot t proposal.clientId) then none
      else some staleReason)

/-- The operation rows after an operation was refused. -/
def markRefused (seq : Nat) (message : String) (op : ProposedOperation) : ProposedOperation :=
  if op.seq = seq then { op with status := .failed, error := some message }
  else if op.status = .pending then { op with status := .skipped }
  else op

/-- What the third transaction of `approve` writes on the reloaded proposal. -/
def recordFailure (seq : Nat) (message : String) (proposal : ChangeProposal) : ChangeProposal :=
  { proposal with
    status := .failed
    error := some s!"Operation {seq} failed: {message}"
    operations := proposal.operations.map (markRefused seq message) }

/-- A recorded failure keeps the identifier. -/
theorem recordFailure_id (seq : Nat) (message : String) (proposal : ChangeProposal) :
    (recordFailure seq message proposal).id = proposal.id := rfl

/-- What the second transaction of `approve` writes on the proposal when no operation was
refused. -/
def complete (user : User) (now : Timestamp) (operations : List ProposedOperation)
    (proposal : ChangeProposal) : ChangeProposal :=
  { proposal with
    status := .completed
    approvedByUserId := some user.id
    approvedAt := some now
    executedAt := some now
    operations := operations }

/-- `_validate_and_execute` on a claimed proposal. An exception that is no `AppError` leaves the
session without a commit. -/
def validateAndExecute (env : Environment) (ticks : Nat → Tick) (now : Timestamp) (user : User)
    (proposal : ChangeProposal) (db : Database) : Outcome Unit × Database :=
  match preflight db.tables now user proposal with
  | .error exc => (.error exc, db)
  | .ok (some reason) =>
    (.ok (), db.modifyProposal proposal.id (failPreflight reason) (failPreflight_id reason))
  | .ok none =>
    match executeAll env ticks user proposal.clientId proposal.id db.tables proposal.operations with
    | .raised error => (.error (.other error), db)
    | .refused seq error =>
      (.ok (), db.modifyProposal proposal.id (recordFailure seq error.message)
        (recordFailure_id seq error.message))
    | .finished operations t =>
      match commit (t.modifyProposal proposal.id (complete user now operations)) with
      | .error exc => (.error exc, db)
      | .ok db => (.ok (), db)

/-- `approve`, with no other transaction between its own: what it returns or raises, and what is
committed when it does. The proposal is refreshed before it is returned. -/
def approve (env : Environment) (ticks : Nat → Tick) (now : Timestamp) (user : User)
    (clientId proposalId : Uuid) (db : Database) : Outcome ChangeProposal × Database :=
  match (do
    gate db.tables user clientId "Your account has read-only access and cannot approve changes."
    getProposal db.tables clientId proposalId) with
  | .error exc => (.error exc, db)
  | .ok _ =>
    let (claimed, db) := claimForExecution proposalId db
    let (result, db) :=
      if claimed = 0 then (.ok (), db)
      else match getProposal db.tables clientId proposalId with
        | .error exc => (.error exc, db)
        | .ok proposal => validateAndExecute env ticks now user proposal db
    (result >>= fun _ => getProposal db.tables clientId proposalId, db)

end ProposalService

end MarketingOS
