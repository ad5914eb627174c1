import MarketingOS.Base.Machine
import MarketingOS.Base.Table
import MarketingOS.Services.JobQueue

/-!
# Requests and workers around the job queue

Any number of request transactions and workers on one queue, one transaction at a time. A
request looks for the queued job of its client when it calls `enqueue` and writes when it
commits. A worker claims a job, reads the data of its client in a later transaction, and calls
back when the build is over, if it ever is. A read sees what is committed by then, and nothing
is locked from one step to the next.
-/
namespace MarketingOS.BuildPipeline

open JobQueue

/-! ## Request transactions -/

/-- A request transaction that has called `enqueue` and is not committed. -/
structure Request where
  clientId : Uuid
  jobType : IntelJobType
  changedKeys : Option (List String)
  runAfter : Option Timestamp
  /-- The queued job to coalesce into, as it was read. -/
  existing : Option IntelJob

/-- The transaction after `enqueue` has looked for a queued job. -/
def Request.ofEnqueue (env : Environment) (clientId : Uuid) (jobType : IntelJobType)
    (changedKeys : Option (List String)) (debounceSeconds : Int) (now : Timestamp)
    (jobs : List IntelJob) : Request where
  clientId := clientId
  jobType := jobType
  changedKeys := changedKeys
  runAfter := if debounceSeconds = 0 then none else some (now + debounceSeconds * second)
  existing := if env.intelligenceEnabled then pendingForClient jobs clientId else none

/-- A column after a flush: what the session assigned when that differs from what it had read,
otherwise the column is not in the statement and keeps what is stored. -/
def flushed {α : Type} [DecidableEq α] (read assigned stored : α) : α :=
  if assigned = read then stored else assigned

/-- The `UPDATE` of a coalesced job, on the row as it stands. It sends the columns `enqueue`
changed and finds the row by its primary key, whatever its status is by now. -/
def writeBack (read assigned stored : IntelJob) : IntelJob :=
  { stored with
    jobType := flushed read.jobType assigned.jobType stored.jobType
    changedKeys := flushed read.changedKeys assigned.changedKeys stored.changedKeys
    runAfter := flushed read.runAfter assigned.runAfter stored.runAfter }

/-- The rows after the commit of a request. An insert under an identifier that is taken is
refused. -/
def Request.flush (tick : Tick) (jobs : List IntelJob) (request : Request) :
    Option (List IntelJob) :=
  match request.existing with
  | some existing =>
    some (Table.modify IntelJob.id existing.id
      (writeBack existing
        (coalesce request.jobType request.changedKeys request.runAfter existing)) jobs)
  | none =>
    if Table.has IntelJob.id jobs tick.jobId then none
    else some (jobs ++
      [newJob tick request.clientId request.jobType request.changedKeys request.runAfter])

/-- The job a request leaves for its change. -/
def Request.jobId (tick : Tick) (request : Request) : Uuid :=
  match request.existing with
  | some existing => existing.id
  | none => tick.jobId

/-! ## Workers -/

/-- A worker inside `process_job`. -/
structure Build where
  worker : String
  jobId : Uuid
  clientId : Uuid
  /-- The attempts of the job, as the claim left them. -/
  attempt : Nat
  /-- How many changes of the client's data the build has seen, once it has read them. -/
  read : Option Nat
deriving DecidableEq

/-- A worker still holds a job: it is running on the claim the build was started for. -/
def Holds (build : Build) (job : IntelJob) : Prop :=
  job.id = build.jobId ∧ job.status = .running ∧ job.lockedBy = some build.worker ∧
    job.attempts = build.attempt

instance (build : Build) (job : IntelJob) : Decidable (Holds build job) := by
  unfold Holds
  infer_instance

/-! ## The machine -/

/-- A committed change of a client's data, numbered, with the job left for it. -/
structure DataChange where
  clientId : Uuid
  version : Nat
  jobId : Uuid
deriving DecidableEq

/-- What is committed, and where every transaction and worker is. `completed` and `changes` are
histories that no step reads. -/
structure Pipeline where
  jobs : List IntelJob
  /-- How many changes of each client's data are committed. -/
  versions : Uuid → Nat
  requests : List Request
  builds : List Build
  /-- The builds that ended in `succeed`. -/
  completed : List Build
  /-- The changes committed by requests that enqueue. -/
  changes : List DataChange

/-- One transactional step. -/
inductive Label where
  /-- A request writes client data and calls `enqueue`. -/
  | enqueue (clientId : Uuid) (jobType : IntelJobType) (changedKeys : Option (List String))
      (debounceSeconds : Int) (now : Timestamp)
  /-- A request commits. -/
  | commit (request : Nat) (tick : Tick)
  /-- A request ends without a commit. -/
  | rollBack (request : Nat)
  | reclaimStale (now : Timestamp)
  /-- An idle worker calls `claim_next`, after its sweep. -/
  | claimNext (worker : String) (now : Timestamp) (busy : Nat → List Uuid) (locked : List Uuid)
  /-- The build of a worker reads the data of its client. -/
  | readClient (worker : String)
  /-- The build of a worker is done. -/
  | succeed (worker : String)
  /-- The build of a worker raised. -/
  | fail (worker : String) (now : Timestamp) (error : String)
  /-- A worker dies, and its callback with it. -/
  | crash (worker : String)

/-- The pipeline after a worker has left `process_job`. -/
def Pipeline.leave (p : Pipeline) (worker : String) (jobs : List IntelJob) : Pipeline :=
  { p with jobs := jobs, builds := Table.remove Build.worker worker p.builds }

/-- The pipeline after a request has committed, with the rows its flush left. -/
def Pipeline.close (p : Pipeline) (request : Nat) (clientId : Uuid) (jobs : List IntelJob)
    (changes : List DataChange) : Pipeline :=
  { p with
    jobs := jobs
    versions := fun other =>
      if other = clientId then p.versions clientId + 1 else p.versions other
    requests := p.requests.eraseIdx request
    changes := changes ++ p.changes }

/-- The pipeline after one step. -/
def next (env : Environment) (p : Pipeline) : Label → Option Pipeline
  | .enqueue clientId jobType changedKeys debounceSeconds now =>
    some { p with
      requests := p.requests ++
        [.ofEnqueue env clientId jobType changedKeys debounceSeconds now p.jobs] }
  | .commit r tick =>
    match p.requests[r]? with
    | none => none
    | some request =>
      if env.intelligenceEnabled then
        (request.flush tick p.jobs).map fun jobs =>
          p.close r request.clientId jobs
            [⟨request.clientId, p.versions request.clientId + 1, request.jobId tick⟩]
      else some (p.close r request.clientId p.jobs [])
  | .rollBack r => some { p with requests := p.requests.eraseIdx r }
  | .reclaimStale now => some { p with jobs := reclaimStale now p.jobs }
  | .claimNext worker now busy locked =>
    if Table.has Build.worker p.builds worker then none
    else
      match claimNext worker now busy locked p.jobs with
      | none => some p
      | some (job, jobs) =>
        some { p with
          jobs := jobs
          builds := p.builds ++ [⟨worker, job.id, job.clientId, job.attempts, none⟩] }
  | .readClient worker =>
    match Table.get Build.worker p.builds worker with
    | none => none
    | some build =>
      if build.read = none then
        some { p with
          builds := Table.modify Build.worker worker
            (fun build => { build with read := some (p.versions build.clientId) }) p.builds }
      else none
  | .succeed worker =>
    match Table.get Build.worker p.builds worker with
    | none => none
    | some build =>
      if build.read = none then none
      else some { p.leave worker (Table.modify IntelJob.id build.jobId succeed p.jobs) with
        completed := build :: p.completed }
  | .fail worker now error =>
    match Table.get Build.worker p.builds worker with
    | none => none
    | some build =>
      some (p.leave worker (Table.modify IntelJob.id build.jobId (fail now error) p.jobs))
  | .crash worker =>
    if Table.has Build.worker p.builds worker then some (p.leave worker p.jobs) else none

/-- Nothing queued, open, running or changed yet. -/
def Start (p : Pipeline) : Prop :=
  p.jobs = [] ∧ p.requests = [] ∧ p.builds = [] ∧ p.completed = [] ∧ p.changes = []

/-- The machine of requests and workers. -/
def machine (env : Environment) : Machine Pipeline Label where
  start := Start
  next := next env

end MarketingOS.BuildPipeline
