import Mathlib.Algebra.Group.Int.Defs
import MarketingOS.Core.Environment
import MarketingOS.Models.Rows

/-!
# The intelligence job queue

The operations of the durable queue of client builds, on the rows of `intel_jobs`. A request
enqueues inside its own transaction; workers claim, finish and reclaim.
-/
namespace MarketingOS.JobQueue

/-- `_STALE_RUNNING_TIMEOUT_SECONDS`. -/
def staleRunningTimeoutSeconds : Int := 1800

/-- `_MAX_CLAIM_ATTEMPTS`. -/
def maxClaimAttempts : Nat := 5

/-- `sorted(set(keys))`. -/
def sortedSet (keys : List String) : List String := keys.eraseDups.mergeSort fun a b => a ≤ b

/-- Queued jobs of one client. -/
def isPendingFor (clientId : Uuid) (job : IntelJob) : Bool :=
  decide (job.clientId = clientId) && decide (job.status = .queued)

/-- The first of a list under a strict order given as "comes before". -/
def firstBy {α : Type} (before : α → α → Bool) : List α → Option α
  | [] => none
  | a :: rest =>
    match firstBy before rest with
    | none => some a
    | some b => if before b a then some b else some a

/-- The first of a list is a member of it. -/
theorem mem_of_firstBy {α : Type} {before : α → α → Bool} {items : List α} {a : α}
    (first : firstBy before items = some a) : a ∈ items := by
  induction items generalizing a with
  | nil => cases first
  | cons b rest ih =>
    simp only [firstBy] at first
    cases found : firstBy before rest with
    | none =>
      simp only [found, Option.some.injEq] at first
      exact first ▸ List.mem_cons_self
    | some c =>
      simp only [found] at first
      split at first
      · obtain rfl := Option.some.inj first
        exact List.mem_cons_of_mem _ (ih found)
      · obtain rfl := Option.some.inj first
        exact List.mem_cons_self

/-- `IntelJobRepository.pending_for_client` — the oldest queued job of a client. -/
def pendingForClient (jobs : List IntelJob) (clientId : Uuid) : Option IntelJob :=
  firstBy (fun a b => decide (a.createdAt < b.createdAt)) (jobs.filter (isPendingFor clientId))

/-- The `changed_keys` of a payload once more keys are merged in; an empty union leaves the
payload as it is. -/
def mergeKeys (stored : Option (List String)) (changedKeys : Option (List String)) :
    Option (List String) :=
  let merged := sortedSet (stored.getD [] ++ changedKeys.getD [])
  if merged.isEmpty then stored else some merged

/-- Coalesce a request into a queued job. A full build dominates, and a debounce replaces the
time before which the job must not run. -/
def coalesce (jobType : IntelJobType) (changedKeys : Option (List String))
    (runAfter : Option Timestamp) (job : IntelJob) : IntelJob :=
  { job with
    jobType := if jobType = .fullBuild then .fullBuild else job.jobType
    changedKeys := mergeKeys job.changedKeys changedKeys
    runAfter := if runAfter.isSome then runAfter else job.runAfter }

/-- A new queued job, with the defaults of its columns. -/
def newJob (tick : Tick) (clientId : Uuid) (jobType : IntelJobType)
    (changedKeys : Option (List String)) (runAfter : Option Timestamp) : IntelJob where
  id := tick.jobId
  clientId := clientId
  jobType := jobType
  status := .queued
  changedKeys := changedKeys.bind fun keys => if keys.isEmpty then none else some (sortedSet keys)
  priority := 0
  runAfter := runAfter
  attempts := 0
  maxAttempts := 3
  lockedBy := none
  lockedAt := none
  lastError := none
  createdAt := tick.now

/-- `enqueue` — coalesce into the oldest queued job of the client, or add a job. The caller
owns the transaction. -/
def enqueue (env : Environment) (tick : Tick) (clientId : Uuid) (jobType : IntelJobType)
    (changedKeys : Option (List String)) (debounceSeconds : Int) (jobs : List IntelJob) :
    List IntelJob :=
  if env.intelligenceEnabled then
    let runAfter := if debounceSeconds = 0 then none else some (tick.now + debounceSeconds * second)
    match pendingForClient jobs clientId with
    | some existing =>
      Table.modify IntelJob.id existing.id (coalesce jobType changedKeys runAfter) jobs
    | none => jobs ++ [newJob tick clientId jobType changedKeys runAfter]
  else jobs

/-- What the stale sweep leaves of one job whose worker never finished. -/
def reclaim (now : Timestamp) (job : IntelJob) : IntelJob :=
  let dead := decide (job.maxAttempts ≤ job.attempts)
  { job with
    status := if dead then .dead else .queued
    runAfter := if dead then job.runAfter else some now
    lastError := some "Reclaimed: worker did not finish within the stale-job timeout."
    lockedBy := none
    lockedAt := none }

/-- Whether the stale sweep selects a job: running, locked before the cutoff. -/
def isStale (now : Timestamp) (job : IntelJob) : Bool :=
  decide (job.status = .running) &&
    job.lockedAt.any fun lockedAt => decide (lockedAt < now - staleRunningTimeoutSeconds * second)

/-- `reclaim_stale`, when its throttle lets it sweep. -/
def reclaimStale (now : Timestamp) (jobs : List IntelJob) : List IntelJob :=
  jobs.map fun job => if isStale now job then reclaim now job else job

/-- Whether a client has a job running. -/
def clientRunning (jobs : List IntelJob) (clientId : Uuid) : Bool :=
  jobs.any fun job => decide (job.clientId = clientId) && decide (job.status = .running)

/-- Whether the candidate query may return a job: queued, due, of a client that is neither busy
nor excluded, and not a row another transaction holds locked. The busy clients are those its
subquery sees, which may be out of date. -/
def isCandidate (now : Timestamp) (busy excluded locked : List Uuid) (job : IntelJob) : Bool :=
  decide (job.status = .queued) && job.runAfter.all (fun runAfter => decide (runAfter ≤ now)) &&
    !busy.contains job.clientId && !excluded.contains job.clientId && !locked.contains job.id

/-- `ORDER BY priority DESC, created_at`. -/
def claimsBefore (a b : IntelJob) : Bool :=
  decide (b.priority < a.priority) ||
    (decide (a.priority = b.priority) && decide (a.createdAt < b.createdAt))

/-- The candidate query, `LIMIT 1` and `SKIP LOCKED`. -/
def candidate (now : Timestamp) (jobs : List IntelJob) (busy excluded locked : List Uuid) :
    Option IntelJob :=
  firstBy claimsBefore (jobs.filter (isCandidate now busy excluded locked))

/-- A job as its claim leaves it. -/
def claim (workerId : String) (now : Timestamp) (job : IntelJob) : IntelJob :=
  { job with
    status := .running
    lockedBy := some workerId
    lockedAt := some now
    attempts := job.attempts + 1 }

/-- The attempts of `claim_next`: take the first candidate, recheck its client under the
advisory lock, then claim it, or exclude the client and try again. `busy` is what the subquery
of each attempt saw. -/
def claimAttempts (workerId : String) (now : Timestamp) (busy : Nat → List Uuid)
    (locked : List Uuid) (jobs : List IntelJob) :
    Nat → List Uuid → Option (IntelJob × List IntelJob)
  | 0, _ => none
  | attempts + 1, excluded =>
    match candidate now jobs (busy attempts) excluded locked with
    | none => none
    | some job =>
      if clientRunning jobs job.clientId then
        claimAttempts workerId now busy locked jobs attempts (job.clientId :: excluded)
      else
        some (claim workerId now job, Table.modify IntelJob.id job.id (claim workerId now) jobs)

/-- `claim_next`, after its sweep. -/
def claimNext (workerId : String) (now : Timestamp) (busy : Nat → List Uuid) (locked : List Uuid)
    (jobs : List IntelJob) : Option (IntelJob × List IntelJob) :=
  claimAttempts workerId now busy locked jobs maxClaimAttempts []

/-- `succeed` on one job. -/
def succeed (job : IntelJob) : IntelJob := { job with status := .succeeded, lastError := none }

/-- `fail` on one job: dead-letter it, or queue it again after a back-off. -/
def fail (now : Timestamp) (error : String) (job : IntelJob) : IntelJob :=
  let dead := decide (job.maxAttempts ≤ job.attempts)
  { job with
    lastError := some (clip 1000 error)
    status := if dead then .dead else .queued
    runAfter := if dead then job.runAfter
      else some (now + min 300 (10 * 2 ^ job.attempts) * second)
    lockedBy := none
    lockedAt := none }

end MarketingOS.JobQueue
