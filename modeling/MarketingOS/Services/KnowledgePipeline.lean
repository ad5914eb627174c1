import MarketingOS.Services.BuildPipeline
import MarketingOS.Services.Knowledge

/-!
# Requests and builds of the intelligence layer

The requests that write the inputs of the intelligence layer, one transaction each, interleaved with
the workers that build from them. What a build read is kept in a history that no step reads.
-/
namespace MarketingOS

open BuildPipeline

/-- What a build read of its client. -/
structure BuildReading where
  build : Build
  inputs : Option ClientInputs
deriving DecidableEq

/-- What is committed, where every worker is, and what every build has read. -/
structure KnowledgeSystem where
  clients : List ClientRecord
  conversations : List Conversation
  sources : List KnowledgeSource
  pipeline : Pipeline
  readings : List BuildReading

/-- One step: a request, or a step of a worker. -/
inductive KnowledgeLabel (env : Environment) where
  | request (tick : Tick) (request : KnowledgeRequest env)
  | worker (label : Label)

namespace KnowledgeSystem

/-- The tables that are committed. -/
def tables (s : KnowledgeSystem) : KnowledgeTables where
  clients := s.clients
  intelJobs := s.pipeline.jobs
  conversations := s.conversations
  sources := s.sources

/-- The job a build that is asked for is left in. -/
def jobId (s : KnowledgeSystem) (tick : Tick) (clientId : Uuid) : Uuid :=
  ((JobQueue.pendingForClient s.pipeline.jobs clientId).map IntelJob.id).getD tick.jobId

/-- The pipeline after a request that asked for a build of a client. -/
def asked (s : KnowledgeSystem) (tick : Tick) (clientId : Uuid) (jobs : List IntelJob) : Pipeline :=
  { s.pipeline with
    jobs := jobs
    versions := fun other =>
      if other = clientId then s.pipeline.versions clientId + 1 else s.pipeline.versions other
    changes := ⟨clientId, s.pipeline.versions clientId + 1, s.jobId tick clientId⟩ ::
      s.pipeline.changes }

/-- Whether a request left anything of a client or of the queue changed. -/
def touched (before after : KnowledgeTables) (clientId : Uuid) : Bool :=
  decide (after.inputs clientId ≠ before.inputs clientId) ||
    decide (after.intelJobs ≠ before.intelJobs)

/-- The pipeline after a request has left these tables. -/
def pipelineAfter (s : KnowledgeSystem) (tick : Tick) (target : Option Uuid)
    (after : KnowledgeTables) : Pipeline :=
  match target.filter (touched s.tables after) with
  | none => s.pipeline
  | some clientId => s.asked tick clientId after.intelJobs

/-- The system after a request. -/
def requested (s : KnowledgeSystem) (tick : Tick) (target : Option Uuid)
    (after : KnowledgeTables) : KnowledgeSystem where
  clients := after.clients
  conversations := after.conversations
  sources := after.sources
  pipeline := s.pipelineAfter tick target after
  readings := s.readings

/-- What the build of a worker reads. -/
def reading (s : KnowledgeSystem) (build : Build) : BuildReading where
  build := { build with read := some (s.pipeline.versions build.clientId) }
  inputs := s.tables.inputs build.clientId

/-- What a step of a worker reads. -/
def newReadings (s : KnowledgeSystem) : Label → List BuildReading
  | .readClient worker =>
    ((Table.get Build.worker s.pipeline.builds worker).map s.reading).toList
  | _ => []

/-- The steps a worker takes. -/
def ofWorker : Label → Bool
  | .enqueue .. | .commit .. | .rollBack _ => false
  | .reclaimStale _ | .claimNext .. | .readClient _ | .succeed _ | .fail .. | .crash _ => true

/-- The system after one step. The identifiers a request is given were never used. -/
def next (env : Environment) (lower : String → String) (s : KnowledgeSystem) :
    KnowledgeLabel env → Option KnowledgeSystem
  | .request tick request =>
    if Table.has IntelJob.id s.pipeline.jobs tick.jobId then none
    else some (s.requested tick (request.target tick) (request.run tick lower s.tables).2)
  | .worker label =>
    if ofWorker label then
      (BuildPipeline.next env s.pipeline label).map fun pipeline =>
        { s with pipeline, readings := s.newReadings label ++ s.readings }
    else none

/-- No clients yet, and nothing queued or running. -/
def Start (s : KnowledgeSystem) : Prop :=
  s.clients = [] ∧ s.conversations = [] ∧ s.sources = [] ∧ s.readings = [] ∧
    BuildPipeline.Start s.pipeline ∧ s.pipeline.versions = fun _ => 0

/-- The machine of requests and builds. -/
def machine (env : Environment) (lower : String → String) :
    Machine KnowledgeSystem (KnowledgeLabel env) where
  start := Start
  next := next env lower

end KnowledgeSystem

end MarketingOS
