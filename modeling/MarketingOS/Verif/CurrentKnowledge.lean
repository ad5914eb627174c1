import MarketingOS.Services.KnowledgePipeline
import MarketingOS.Verif.Coalescing
import MarketingOS.Verif.KnowledgeChanges
import MarketingOS.Verif.NoLostChange

/-!
# What is built is what is there

Over every run of requests and workers: when a client has no job queued, running or dead, some build
that succeeded has read its inputs as they are now, or no build of it was ever asked for. A deletion
of promoted messages that leaves no build breaks this, and so does a worker that finishes a job it
lost.
-/
namespace MarketingOS.KnowledgeSystem

open BuildPipeline KnowledgeRequest

variable {env : Environment} {lower : String → String}

/-! ## Statement -/

/-- A request leaves a build of what it withdraws, and a worker finishes a job it still holds. -/
def Attentive : Machine.Guard KnowledgeSystem (KnowledgeLabel env)
  | s, .request _ request =>
    ∀ clientId, TakesPromoted s.tables clientId request → s.tables.BuildQueued clientId
  | s, .worker label => NothingTooLate s.pipeline label

instance (s : KnowledgeSystem) (label : KnowledgeLabel env) : Decidable (Attentive s label) :=
  match label with
  | .worker label => inferInstanceAs (Decidable (NothingTooLate s.pipeline label))
  | .request _ (.inbox owner (.deleteConversation conversationId)) =>
    decidable_of_iff ((∃ conv ∈ ConversationService.find s.tables owner conversationId,
        ∃ m ∈ conv.messages, m.addedToSourceAt.isSome = true) → s.tables.BuildQueued owner)
      ⟨fun leaves _ ⟨own, takes⟩ => own ▸ leaves takes,
        fun leaves takes => leaves owner ⟨rfl, takes⟩⟩
  | .request _ (.createDraft _) | .request _ (.createDraftMinimal ..) | .request _ (.onboard ..)
  | .request _ (.client ..) | .request _ (.inbox _ (.createConversation ..))
  | .request _ (.inbox _ (.addMessage ..)) | .request _ (.inbox _ (.updateConversation ..))
  | .request _ (.inbox _ (.updateMessage ..)) | .request _ (.inbox _ (.addMessageToSource ..)) =>
    .isTrue fun _ => False.elim

/-- A build that succeeded has read the inputs of the client as they are. -/
def Built (s : KnowledgeSystem) (clientId : Uuid) : Prop :=
  ∃ build ∈ s.pipeline.completed, build.clientId = clientId ∧
    ∃ reading ∈ s.readings, reading.build = build ∧ reading.inputs = s.tables.inputs clientId

/-- No job of the client waits, runs or was given up. -/
def Drained (s : KnowledgeSystem) (clientId : Uuid) : Prop :=
  ∀ job ∈ s.pipeline.jobs, job.clientId = clientId →
    job.status ≠ .queued ∧ job.status ≠ .running ∧ job.status ≠ .dead

instance (s : KnowledgeSystem) (clientId : Uuid) : Decidable (Drained s clientId) := by
  unfold Drained
  infer_instance

/-! ## What a request flushes to the queue -/

/-- A column written back on the value that was read is the one assigned. -/
theorem flushed_self {α : Type} [DecidableEq α] (read assigned : α) :
    flushed read assigned read = assigned := by
  unfold flushed
  split
  · next same => exact same.symm
  · rfl

/-- A job written back as it was read is the coalesced one. -/
theorem writeBack_coalesce (jobType : IntelJobType) (changedKeys : Option (List String))
    (runAfter : Option Timestamp) (job : IntelJob) :
    writeBack job (JobQueue.coalesce jobType changedKeys runAfter job) job =
      JobQueue.coalesce jobType changedKeys runAfter job := by
  unfold writeBack
  rw [flushed_self, flushed_self, flushed_self]
  rfl

section Asking

variable {s : KnowledgeSystem} {tick : Tick} {clientId : Uuid} {jobType : IntelJobType}
  {changedKeys : Option (List String)} {debounceSeconds : Int}

/-- The request transaction of a build that is asked for. -/
abbrev asking (env : Environment) (s : KnowledgeSystem) (tick : Tick) (clientId : Uuid)
    (jobType : IntelJobType) (changedKeys : Option (List String)) (debounceSeconds : Int) :
    BuildPipeline.Request :=
  .ofEnqueue env clientId jobType changedKeys debounceSeconds tick.now s.pipeline.jobs

/-- Asking for a build in one transaction is a request that commits at once. -/
theorem flush_asking (enabled : env.intelligenceEnabled = true) (tracked : Tracked s.pipeline)
    (fresh : Table.has IntelJob.id s.pipeline.jobs tick.jobId = false) :
    (asking env s tick clientId jobType changedKeys debounceSeconds).flush tick s.pipeline.jobs =
      some (JobQueue.enqueue env tick clientId jobType changedKeys debounceSeconds
        s.pipeline.jobs) := by
  unfold asking BuildPipeline.Request.ofEnqueue BuildPipeline.Request.flush JobQueue.enqueue
  rw [if_pos enabled, if_pos enabled]
  dsimp only
  cases found : JobQueue.pendingForClient s.pipeline.jobs clientId with
  | none =>
    dsimp only
    rw [fresh, if_neg Bool.false_ne_true]
  | some existing =>
    dsimp only
    refine congrArg some (List.map_congr_left fun row inside => ?_)
    by_cases same : row.id = existing.id
    · obtain rfl := tracked.only inside (JobQueue.pendingForClient_mem found).1 same
      rw [if_pos rfl, if_pos rfl, writeBack_coalesce]
    · rw [if_neg same, if_neg same]

/-- The job a build that is asked for is left in. -/
theorem jobId_asking (enabled : env.intelligenceEnabled = true) :
    (asking env s tick clientId jobType changedKeys debounceSeconds).jobId tick =
      s.jobId tick clientId := by
  unfold asking BuildPipeline.Request.ofEnqueue BuildPipeline.Request.jobId jobId
  rw [if_pos enabled]
  cases JobQueue.pendingForClient s.pipeline.jobs clientId <;> rfl

/-- The two steps of a request that asks for a build. -/
theorem asked_steps (s : KnowledgeSystem) (tick : Tick) (clientId : Uuid) (jobType : IntelJobType)
    (changedKeys : Option (List String)) (debounceSeconds : Int)
    (enabled : env.intelligenceEnabled = true) (tracked : Tracked s.pipeline)
    (alone : s.pipeline.requests = [])
    (fresh : Table.has IntelJob.id s.pipeline.jobs tick.jobId = false) :
    BuildPipeline.next env s.pipeline
        (.enqueue clientId jobType changedKeys debounceSeconds tick.now) =
      some { s.pipeline with
        requests := [asking env s tick clientId jobType changedKeys debounceSeconds] } ∧
    BuildPipeline.next env { s.pipeline with
        requests := [asking env s tick clientId jobType changedKeys debounceSeconds] }
        (.commit 0 tick) =
      some (s.asked tick clientId (JobQueue.enqueue env tick clientId jobType changedKeys
        debounceSeconds s.pipeline.jobs)) := by
  constructor
  · rw [BuildPipeline.next, alone, List.nil_append]
  · simp only [BuildPipeline.next, List.getElem?_cons_zero, enabled, ↓reduceIte,
      flush_asking enabled tracked fresh, Option.map_some, jobId_asking enabled]
    rw [asked, alone]
    rfl

end Asking

/-! ## The queue -/

/-- Every change is followed through the queue, and no request is open. -/
structure Followed (p : Pipeline) : Prop where
  tracked : Tracked p
  changes : ∀ change ∈ p.changes, BuildPipeline.Followed p change
  alone : p.requests = []

section Queue

variable {s : KnowledgeSystem} {tick : Tick} {clientId : Uuid}

/-- Asking for a build goes on following every change, and follows the new one. -/
theorem Followed.asked (followed : Followed s.pipeline) (enabled : env.intelligenceEnabled = true)
    (fresh : Table.has IntelJob.id s.pipeline.jobs tick.jobId = false)
    (jobType : IntelJobType) (changedKeys : Option (List String)) (debounceSeconds : Int) :
    Followed (s.asked tick clientId (JobQueue.enqueue env tick clientId jobType changedKeys
      debounceSeconds s.pipeline.jobs)) := by
  obtain ⟨tracked, changes, alone⟩ := followed
  obtain ⟨opens, commits⟩ := asked_steps s tick clientId jobType changedKeys debounceSeconds enabled
    tracked alone fresh
  have opened := step_of_next opens
  have committed := step_of_next commits
  have tracked' := tracked.step opened
  have early : NothingTooLate s.pipeline
      (.enqueue clientId jobType changedKeys debounceSeconds tick.now) := trivial
  have changes' := followed_step tracked changes early opened
  refine ⟨tracked'.step committed, followed_step tracked' changes' ?_ committed, alone⟩
  -- the job that was found a moment ago is still queued
  intro existing found job inside same
  simp only [List.getElem?_cons_zero, Option.bind_some, asking,
    BuildPipeline.Request.ofEnqueue, enabled, ↓reduceIte] at found
  obtain ⟨member, pending⟩ := List.mem_filter.mp (JobQueue.mem_of_firstBy found)
  obtain rfl := tracked.only inside member same
  rw [JobQueue.isPendingFor, Bool.and_eq_true, decide_eq_true_eq, decide_eq_true_eq] at pending
  exact .inl pending.2

/-- A change that finds a build queued is followed by that build. -/
theorem Followed.unasked (followed : Followed s.pipeline)
    (queued : s.tables.BuildQueued clientId) :
    Followed (s.asked tick clientId s.pipeline.jobs) := by
  obtain ⟨tracked, changes, alone⟩ := followed
  obtain ⟨waiting, inside, own, status⟩ := queued
  cases found : JobQueue.pendingForClient s.pipeline.jobs clientId with
  | none =>
    have none := Coalescing.pending_none found
    have pending : JobQueue.isPendingFor clientId waiting = true := by
      rw [JobQueue.isPendingFor, own, status]
      simp
    have listed := List.mem_filter.mpr ⟨inside, pending⟩
    rw [tables, none] at listed
    cases listed
  | some existing =>
    have named : s.jobId tick clientId = existing.id := by rw [jobId, found]; rfl
    obtain ⟨member, pending⟩ := List.mem_filter.mp (JobQueue.mem_of_firstBy found)
    rw [JobQueue.isPendingFor, Bool.and_eq_true, decide_eq_true_eq, decide_eq_true_eq] at pending
    refine ⟨⟨tracked.sound, tracked.workers, tracked.builds, tracked.requests, ?_⟩, ?_, alone⟩
    · intro change listed
      simp only [KnowledgeSystem.asked] at listed ⊢
      obtain rfl | old := List.mem_cons.mp listed
      · rw [if_pos rfl]
      · have known := tracked.versions change old
        split
        · next same =>
          rw [same] at known
          exact Nat.le_succ_of_le known
        · exact known
    · intro change listed
      obtain rfl | old := List.mem_cons.mp listed
      · exact followed_of_waiting member named.symm pending.1 (.inr pending.2)
      · exact (changes change old).keep (List.Subset.refl _)
          (fun build there late job _ _ holds => ⟨build, there, late, holds⟩)
          fun job there _ _ _ => .inr ⟨job, there, .refl job⟩

/-- The steps of a worker go on following every change. -/
theorem Followed.worker {p p' : Pipeline} {label : Label} (followed : Followed p)
    (meets : NothingTooLate p label) (taken : BuildPipeline.Step env p label p')
    (alone : p'.requests = []) : Followed p' :=
  ⟨followed.tracked.step taken, followed_step followed.tracked followed.changes meets taken, alone⟩

end Queue

/-! ## The constraints -/

section Constraints

open OnboardingService ClientService ComplianceService ConversationService

variable {tick : Tick}

/-- A commit leaves tables that meet the constraints. -/
theorem consistent_commitOr {t after : OnboardingTables} (before : t.Consistent) (refused : Exc) :
    (commitOr refused t after).2.Consistent := by
  unfold commitOr
  split
  · assumption
  · exact before

/-- A write to a stored client leaves tables that meet the constraints. -/
theorem consistent_runClient {t : OnboardingTables} (before : t.Consistent) (record : ClientRecord)
    (write : ClientWrite env) : (runClient tick t record write).2.Consistent := by
  have saved {refused : Exc} {jobType : IntelJobType} {changedKeys : Option (List String)}
      {debounceSeconds : Int} {write : ClientRecord → ClientRecord} :
      (saveClient env tick refused jobType changedKeys debounceSeconds write t
        record).2.Consistent := consistent_commitOr before refused
  cases write with
  | updateStep data => exact saved
  | addDocuments docId data => exact saved
  | removeDocument documentId =>
    simp only [runClient, done, removeDocument]
    split
    · exact saved
    · exact before
  | complete => exact saved
  | updateClient data =>
    simp only [runClient, done, updateClient]
    split
    · exact consistent_commitOr before _
    · exact saved
  | updateBrand data => exact saved
  | createEntry data =>
    simp only [runClient, done, createEntry, saveRegister]
    exact saved
  | updateEntry entryId data =>
    simp only [runClient, done, updateEntry, saveRegister]
    split
    · exact before
    · exact saved
  | deleteEntry entryId =>
    simp only [runClient, deleteEntry, saveRegister]
    split
    · exact before
    · exact saved
  | sync =>
    simp only [runClient, sync, saveRegister]
    exact saved

/-- A commit of the inbox leaves tables that meet the constraints. -/
theorem consistent_commit {t after : KnowledgeTables} (before : t.Consistent) :
    (ConversationService.commit t after).2.Consistent := by
  unfold ConversationService.commit
  split
  · assumption
  · exact before

/-- A write to an inbox leaves tables that meet the constraints. -/
theorem consistent_runInbox {t : KnowledgeTables} (before : t.Consistent) (clientId : Uuid)
    (write : InboxWrite) : (runInbox tick env t clientId write).2.Consistent := by
  cases write with
  | createConversation messageId senderUserId data => exact consistent_commit before
  | addMessage conversationId senderUserId data =>
    simp only [runInbox, done, addMessage]
    split
    · exact before
    · exact consistent_commit before
  | updateConversation conversationId data =>
    simp only [runInbox, done, updateConversation]
    split
    · exact before
    · exact consistent_commit before
  | updateMessage conversationId messageId data =>
    simp only [runInbox, done, updateMessage]
    split
    · exact before
    · exact consistent_commit before
  | addMessageToSource conversationId messageId =>
    simp only [runInbox, done, addMessageToSource]
    split
    · exact before
    · split
      · exact before
      · exact consistent_commit before
  | deleteConversation conversationId =>
    simp only [runInbox, deleteConversation]
    split
    · exact before
    · exact consistent_commit before

/-- A request leaves tables that meet the constraints. -/
theorem consistent_run {t : KnowledgeTables} (before : t.Consistent)
    (request : KnowledgeRequest env) : (run tick lower t request).2.Consistent := by
  obtain ⟨onboarding, rest⟩ := before
  cases request with
  | createDraft data => exact ⟨consistent_commitOr onboarding _, rest⟩
  | createDraftMinimal name website => exact ⟨consistent_commitOr onboarding _, rest⟩
  | onboard docId data => exact ⟨consistent_commitOr onboarding _, rest⟩
  | client clientId write =>
    cases found : t.get clientId with
    | none =>
      simp only [run, found]
      exact ⟨onboarding, rest⟩
    | some record =>
      simp only [run, found]
      exact ⟨consistent_runClient onboarding record write, rest⟩
  | inbox clientId write =>
    cases found : t.get clientId with
    | none =>
      simp only [run, found]
      exact ⟨onboarding, rest⟩
    | some record =>
      simp only [run, found]
      exact consistent_runInbox ⟨onboarding, rest⟩ clientId write

end Constraints

/-! ## Requests -/

/-- What holds of every state of a run. -/
structure Sound (s : KnowledgeSystem) : Prop where
  followed : Followed s.pipeline
  consistent : s.tables.Consistent
  known : ∀ job ∈ s.pipeline.jobs, (s.tables.inputs job.clientId).isSome = true
  counted : ∀ clientId, s.pipeline.versions clientId = 0 ∨ ∃ change ∈ s.pipeline.changes,
    change.clientId = clientId ∧ change.version = s.pipeline.versions clientId
  logged : ∀ build ∈ s.pipeline.builds ++ s.pipeline.completed, build.read ≠ none →
    ∃ reading ∈ s.readings, reading.build = build
  readers : ∀ reading ∈ s.readings, (s.tables.inputs reading.build.clientId).isSome = true
  bounded : ∀ reading ∈ s.readings, ∀ seen ∈ reading.build.read,
    seen ≤ s.pipeline.versions reading.build.clientId
  current : ∀ reading ∈ s.readings,
    reading.build.read = some (s.pipeline.versions reading.build.clientId) →
    reading.inputs = s.tables.inputs reading.build.clientId

section Requests

variable {s : KnowledgeSystem} {tick : Tick} {request : KnowledgeRequest env}
  {after : KnowledgeTables}

/-- A client whose inputs and whose queue are as before is not touched. -/
theorem touched_eq_false_iff {before after : KnowledgeTables} {clientId : Uuid} :
    touched before after clientId = false ↔
      after.inputs clientId = before.inputs clientId ∧ after.intelJobs = before.intelJobs := by
  simp [touched]

/-- The jobs of an enqueued build are those of its client and those there were. -/
theorem clientId_enqueue {clientId : Uuid} {jobType : IntelJobType}
    {changedKeys : Option (List String)} {debounceSeconds : Int} {jobs : List IntelJob}
    {job : IntelJob}
    (inside : job ∈ JobQueue.enqueue env tick clientId jobType changedKeys debounceSeconds jobs) :
    job.clientId = clientId ∨ ∃ old ∈ jobs, old.clientId = job.clientId := by
  unfold JobQueue.enqueue at inside
  split at inside
  · dsimp only at inside
    split at inside
    · obtain ⟨old, -⟩ | ⟨old, there, -, rfl⟩ := Table.mem_modify.mp inside
      · exact .inr ⟨job, old, rfl⟩
      · exact .inr ⟨old, there, rfl⟩
    · obtain old | new := List.mem_append.mp inside
      · exact .inr ⟨job, old, rfl⟩
      · rw [List.mem_singleton.mp new]
        exact .inl rfl
  · exact .inr ⟨job, inside, rfl⟩

/-- What a request does to the system: the pipeline stays and every client is read as before, or a
build of one client is followed and every other client is read as before. -/
inductive Outcome (s : KnowledgeSystem) (tick : Tick) (after : KnowledgeTables) :
    Pipeline → Prop where
  | stays (jobs : after.intelJobs = s.pipeline.jobs)
      (same : ∀ other, (s.tables.inputs other).isSome = true →
        after.inputs other = s.tables.inputs other) : Outcome s tick after s.pipeline
  | asks (clientId : Uuid) (followed : Followed (s.asked tick clientId after.intelJobs))
      (there : (after.inputs clientId).isSome = true)
      (jobs : ∀ job ∈ after.intelJobs, job.clientId = clientId ∨
        ∃ old ∈ s.pipeline.jobs, old.clientId = job.clientId)
      (same : ∀ other, other ≠ clientId → after.inputs other = s.tables.inputs other) :
      Outcome s tick after (s.asked tick clientId after.intelJobs)

/-- A request whose client is not touched leaves the pipeline. -/
theorem outcome_untouched {clientId : Uuid} (target : request.target tick = some clientId)
    (same : ∀ other, other ≠ clientId → after.inputs other = s.tables.inputs other)
    (touch : touched s.tables after clientId = false) :
    Outcome s tick after (s.pipelineAfter tick (request.target tick) after) := by
  obtain ⟨own, jobs⟩ := touched_eq_false_iff.mp touch
  have stays : s.pipelineAfter tick (request.target tick) after = s.pipeline := by
    rw [pipelineAfter, target, Option.filter_some, touch, if_neg Bool.false_ne_true]
  rw [stays]
  refine .stays jobs fun other _ => ?_
  by_cases mine : other = clientId
  · rw [mine]
    exact own
  · exact same other mine

/-- What an attentive request does to the system. -/
theorem outcome_of_effect (sound : Sound s) (enabled : env.intelligenceEnabled = true)
    (fresh : Table.has IntelJob.id s.pipeline.jobs tick.jobId = false)
    (attentive : ∀ clientId, TakesPromoted s.tables clientId request →
      s.tables.BuildQueued clientId)
    (effect : Effect env tick s.tables request after) :
    Outcome s tick after (s.pipelineAfter tick (request.target tick) after) := by
  cases effect with
  | quiet jobs same =>
    have stays : s.pipelineAfter tick (request.target tick) after = s.pipeline := by
      unfold pipelineAfter
      cases request.target tick with
      | none => rfl
      | some clientId =>
        rw [Option.filter_some, touched_eq_false_iff.mpr ⟨same clientId, jobs⟩,
          if_neg Bool.false_ne_true]
    rw [stays]
    exact .stays jobs fun other _ => same other
  | opened untargeted jobs clientId fresh same =>
    have stays : s.pipelineAfter tick (request.target tick) after = s.pipeline := by
      rw [pipelineAfter, untargeted]
      rfl
    rw [stays]
    refine .stays jobs fun other there => same other ?_
    rintro rfl
    rw [fresh] at there
    cases there
  | asked clientId target asked there same =>
    cases touch : touched s.tables after clientId with
    | false => exact outcome_untouched target same touch
    | true =>
      obtain ⟨jobType, changedKeys, debounceSeconds, jobs⟩ := asked
      have asks : s.pipelineAfter tick (request.target tick) after =
          s.asked tick clientId after.intelJobs := by
        rw [pipelineAfter, target, Option.filter_some, touch, if_pos rfl]
      rw [asks]
      refine .asks clientId ?_ there (fun job inside => ?_) same
      · rw [jobs]
        exact sound.followed.asked enabled fresh jobType changedKeys debounceSeconds
      · rw [jobs] at inside
        exact clientId_enqueue inside
  | withdrawn clientId target takes gone same =>
    cases touch : touched s.tables after clientId with
    | false => exact outcome_untouched target same touch
    | true =>
      obtain ⟨conv, stored, own, some, rfl⟩ := gone
      have queued := attentive clientId takes
      have there : (s.tables.inputs clientId).isSome = true := by
        obtain ⟨job, inside, mine, -⟩ := queued
        rw [← mine]
        exact sound.known job inside
      rw [pipelineAfter, target, Option.filter_some, touch, if_pos rfl]
      refine .asks clientId (sound.followed.unasked queued) ?_
        (fun job inside => .inr ⟨job, inside, rfl⟩) same
      exact isSome_inputs (Option.isSome_map.symm.trans there) rfl

/-- The tables after a request are those it left. -/
theorem tables_requested {target : Option Uuid}
    (jobs : (s.pipelineAfter tick target after).jobs = after.intelJobs) :
    (s.requested tick target after).tables = after := by
  simp only [tables, requested, jobs]

/-- An attentive request keeps the system sound. -/
theorem Sound.requested (sound : Sound s) {target : Option Uuid} (consistent : after.Consistent)
    {pipeline : Pipeline} (left : s.pipelineAfter tick target after = pipeline)
    (outcome : Outcome s tick after pipeline) : Sound (s.requested tick target after) := by
  cases outcome with
  | stays jobs same =>
    have tables : (s.requested tick target after).tables = after :=
      tables_requested (by rw [left, jobs])
    have pipe : (s.requested tick target after).pipeline = s.pipeline := left
    refine ⟨pipe ▸ sound.followed, tables ▸ consistent, ?_, ?_, ?_, ?_, ?_, ?_⟩
    · rw [pipe, tables]
      intro job inside
      rw [same _ (sound.known job inside)]
      exact sound.known job inside
    · rw [pipe]
      exact sound.counted
    · rw [pipe]
      exact sound.logged
    · rw [tables]
      intro reading inside
      rw [same _ (sound.readers reading inside)]
      exact sound.readers reading inside
    · rw [pipe]
      exact sound.bounded
    · rw [pipe, tables]
      intro reading inside latest
      rw [same _ (sound.readers reading inside)]
      exact sound.current reading inside latest
  | asks clientId followed there jobs same =>
    have tables : (s.requested tick target after).tables = after :=
      tables_requested (by rw [left]; rfl)
    have pipe : (s.requested tick target after).pipeline =
        s.asked tick clientId after.intelJobs := left
    have versions (other : Uuid) : (s.asked tick clientId after.intelJobs).versions other =
        if other = clientId then s.pipeline.versions clientId + 1
        else s.pipeline.versions other := rfl
    -- a client that was there still is
    have still (other : Uuid) (was : (s.tables.inputs other).isSome = true) :
        (after.inputs other).isSome = true := by
      by_cases mine : other = clientId
      · rw [mine]
        exact there
      · rw [same other mine]
        exact was
    refine ⟨pipe ▸ followed, tables ▸ consistent, ?_, ?_, ?_, ?_, ?_, ?_⟩
    · rw [pipe, tables]
      intro job inside
      obtain mine | ⟨old, listed, own⟩ := jobs job inside
      · rw [mine]
        exact there
      · rw [← own]
        exact still _ (sound.known old listed)
    · rw [pipe]
      intro other
      rw [versions]
      by_cases mine : other = clientId
      · rw [if_pos mine]
        exact .inr ⟨_, List.mem_cons_self, mine.symm, rfl⟩
      · rw [if_neg mine]
        exact (sound.counted other).imp_right fun ⟨change, listed, rest⟩ =>
          ⟨change, List.mem_cons_of_mem _ listed, rest⟩
    · rw [pipe]
      exact sound.logged
    · rw [tables]
      exact fun reading inside => still _ (sound.readers reading inside)
    · rw [pipe]
      intro reading inside seen read
      have bound := sound.bounded reading inside seen read
      rw [versions]
      split
      · next mine =>
        rw [mine] at bound
        exact Nat.le_succ_of_le bound
      · exact bound
    · rw [pipe, tables]
      intro reading inside latest
      by_cases mine : reading.build.clientId = clientId
      · rw [versions, if_pos mine] at latest
        have bound := sound.bounded reading inside _ latest
        rw [mine] at bound
        exact absurd bound (Nat.not_succ_le_self _)
      · rw [versions, if_neg mine] at latest
        rw [same _ mine]
        exact sound.current reading inside latest

end Requests

/-! ## Workers -/

section Workers

variable {s : KnowledgeSystem} {label : Label} {p' : Pipeline}

/-- A step of a worker changes no version, opens no request and moves no job to another client. -/
theorem worker_keeps (worker : ofWorker label = true)
    (taken : BuildPipeline.Step env s.pipeline label p') :
    p'.versions = s.pipeline.versions ∧ p'.changes = s.pipeline.changes ∧
      p'.requests = s.pipeline.requests ∧
      ∀ job ∈ p'.jobs, ∃ old ∈ s.pipeline.jobs, old.clientId = job.clientId := by
  have listed (jobId : Uuid) (change : IntelJob → IntelJob)
      (keeps : ∀ job, (change job).clientId = job.clientId) :
      ∀ job ∈ Table.modify IntelJob.id jobId change s.pipeline.jobs,
        ∃ old ∈ s.pipeline.jobs, old.clientId = job.clientId := by
    intro job inside
    obtain ⟨old, -⟩ | ⟨old, there, -, rfl⟩ := Table.mem_modify.mp inside
    · exact ⟨job, old, rfl⟩
    · exact ⟨old, there, (keeps old).symm⟩
  cases taken with
  | enqueued clientId jobType changedKeys debounceSeconds now => cases worker
  | coalesced r tick request existing was found => cases worker
  | added r tick request was fresh => cases worker
  | unheeded r tick request was => cases worker
  | rolledBack r => cases worker
  | swept now =>
    refine ⟨rfl, rfl, rfl, fun job inside => ?_⟩
    obtain ⟨old, there, rfl⟩ := List.mem_map.mp inside
    refine ⟨old, there, ?_⟩
    split <;> rfl
  | idled worker now busy locked => exact ⟨rfl, rfl, rfl, fun job inside => ⟨job, inside, rfl⟩⟩
  | claimed worker now busy locked job idle inside queued free =>
    exact ⟨rfl, rfl, rfl, listed _ _ fun _ => rfl⟩
  | read build inside => exact ⟨rfl, rfl, rfl, fun job inside => ⟨job, inside, rfl⟩⟩
  | succeeded build seen inside read => exact ⟨rfl, rfl, rfl, listed _ _ fun _ => rfl⟩
  | failed build now error inside => exact ⟨rfl, rfl, rfl, listed _ _ fun _ => rfl⟩
  | crashed worker => exact ⟨rfl, rfl, rfl, fun job inside => ⟨job, inside, rfl⟩⟩

/-- What a build has read after a step of a worker, it had read before or reads in that step. -/
theorem worker_reads (tracked : Tracked s.pipeline) (worker : ofWorker label = true)
    (taken : BuildPipeline.Step env s.pipeline label p') :
    ∀ build ∈ p'.builds ++ p'.completed, build.read ≠ none →
      build ∈ s.pipeline.builds ++ s.pipeline.completed ∨
        ∃ reading ∈ s.newReadings label, reading.build = build := by
  have fewer (name : String) : ∀ build ∈
      Table.remove Build.worker name s.pipeline.builds ++ s.pipeline.completed,
      build ∈ s.pipeline.builds ++ s.pipeline.completed := by
    intro build inside
    exact (List.mem_append.mp inside).elim
      (fun started => List.mem_append_left _ (List.mem_filter.mp started).1)
      (List.mem_append_right _)
  cases taken with
  | enqueued clientId jobType changedKeys debounceSeconds now => cases worker
  | coalesced r tick request existing was found => cases worker
  | added r tick request was fresh => cases worker
  | unheeded r tick request was => cases worker
  | rolledBack r => cases worker
  | swept now => exact fun build inside _ => .inl inside
  | idled worker now busy locked => exact fun build inside _ => .inl inside
  | claimed worker now busy locked job idle inside queued free =>
    intro build there read
    obtain started | done := List.mem_append.mp there
    · obtain old | new := List.mem_append.mp started
      · exact .inl (List.mem_append_left _ old)
      · rw [List.mem_singleton.mp new] at read
        exact absurd rfl read
    · exact .inl (List.mem_append_right _ done)
  | read own inside =>
    intro build there _
    obtain started | done := List.mem_append.mp there
    · obtain ⟨old, -⟩ | ⟨old, member, same, rfl⟩ := Table.mem_modify.mp started
      · exact .inl (List.mem_append_left _ old)
      · obtain rfl := List.inj_on_of_nodup_map tracked.workers member inside same
        refine .inr ⟨s.reading old, ?_, rfl⟩
        rw [newReadings, Table.get_of_mem tracked.workers inside]
        exact List.mem_singleton_self _
    · exact .inl (List.mem_append_right _ done)
  | succeeded own seen inside read =>
    intro build there _
    obtain started | done := List.mem_append.mp there
    · exact .inl (List.mem_append_left _ (List.mem_filter.mp started).1)
    · obtain rfl | old := List.mem_cons.mp done
      · exact .inl (List.mem_append_left _ inside)
      · exact .inl (List.mem_append_right _ old)
  | failed own now error inside => exact fun build there _ => .inl (fewer _ build there)
  | crashed worker => exact fun build there _ => .inl (fewer _ build there)

/-- A new reading is one of a build that is there. -/
theorem mem_newReadings {reading : BuildReading} (inside : reading ∈ s.newReadings label) :
    ∃ build ∈ s.pipeline.builds, reading = s.reading build := by
  cases label with
  | readClient worker =>
    obtain ⟨build, found, rfl⟩ := Option.map_eq_some_iff.mp (Option.mem_toList.mp inside)
    exact ⟨build, Table.get_mem found, rfl⟩
  | enqueue clientId jobType changedKeys debounceSeconds now => cases inside
  | commit request tick => cases inside
  | rollBack request => cases inside
  | reclaimStale now => cases inside
  | claimNext worker now busy locked => cases inside
  | succeed worker => cases inside
  | fail worker now error => cases inside
  | crash worker => cases inside

/-- The inputs of a client are not read from the queue. -/
theorem inputs_tables {s' : KnowledgeSystem} (clients : s'.clients = s.clients)
    (conversations : s'.conversations = s.conversations) (clientId : Uuid) :
    s'.tables.inputs clientId = s.tables.inputs clientId :=
  KnowledgeRequest.inputs_congr clients
    (by simp only [KnowledgeTables.promotedMessages, tables, conversations])

/-- A step of a worker that finishes only a job it holds keeps the system sound. -/
theorem Sound.worker (sound : Sound s) (worker : ofWorker label = true)
    (meets : NothingTooLate s.pipeline label)
    (taken : BuildPipeline.Step env s.pipeline label p') :
    Sound { s with pipeline := p', readings := s.newReadings label ++ s.readings } := by
  obtain ⟨versions, changes, requests, jobs⟩ := worker_keeps worker taken
  have same (other : Uuid) : KnowledgeTables.inputs (tables { s with
      pipeline := p', readings := s.newReadings label ++ s.readings }) other =
      s.tables.inputs other := inputs_tables rfl rfl other
  -- a reading of this step is of a build whose client is there
  have new : ∀ reading ∈ s.newReadings label, ∃ build ∈ s.pipeline.builds,
      reading = s.reading build ∧ (s.tables.inputs build.clientId).isSome = true := by
    intro reading inside
    obtain ⟨build, there, rfl⟩ := mem_newReadings inside
    obtain ⟨job, listed, -, client, -⟩ := sound.followed.tracked.builds build there
    exact ⟨build, there, rfl, client ▸ sound.known job listed⟩
  refine ⟨sound.followed.worker meets taken (requests.trans sound.followed.alone),
    sound.consistent, ?_, ?_, ?_, ?_, ?_, ?_⟩
  · intro job inside
    obtain ⟨old, listed, client⟩ := jobs job inside
    rw [same, ← client]
    exact sound.known old listed
  · rw [versions, changes]
    exact sound.counted
  · intro build inside read
    obtain old | ⟨reading, listed, own⟩ :=
      worker_reads sound.followed.tracked worker taken build inside read
    · obtain ⟨reading, listed, own⟩ := sound.logged build old read
      exact ⟨reading, List.mem_append_right _ listed, own⟩
    · exact ⟨reading, List.mem_append_left _ listed, own⟩
  · intro reading inside
    rw [same]
    obtain now | old := List.mem_append.mp inside
    · obtain ⟨build, -, rfl, there⟩ := new reading now
      exact there
    · exact sound.readers reading old
  · rw [versions]
    intro reading inside seen read
    obtain now | old := List.mem_append.mp inside
    · obtain ⟨build, -, rfl, -⟩ := new reading now
      exact Nat.le_of_eq (Option.some.inj read).symm
    · exact sound.bounded reading old seen read
  · rw [versions]
    intro reading inside latest
    rw [same]
    obtain now | old := List.mem_append.mp inside
    · obtain ⟨build, -, rfl, -⟩ := new reading now
      rfl
    · exact sound.current reading old latest

end Workers

/-! ## Runs -/

/-- An attentive step keeps the system sound. -/
theorem Sound.step (enabled : env.intelligenceEnabled = true) {s s' : KnowledgeSystem}
    {label : KnowledgeLabel env} (sound : Sound s) (meets : Attentive s label)
    (taken : next env lower s label = some s') : Sound s' := by
  cases label with
  | request tick request =>
    simp only [next, Option.ite_none_left_eq_some, Bool.not_eq_true, Option.some.injEq] at taken
    obtain ⟨fresh, rfl⟩ := taken
    have stepped : RequestStep env tick s.tables request
        (KnowledgeRequest.run tick lower s.tables request).2 := requestStep_run request
    have effect := effect_of_step sound.consistent stepped
    exact sound.requested (consistent_run sound.consistent request) rfl
      (outcome_of_effect sound enabled fresh meets effect)
  | worker label =>
    simp only [next, Option.ite_none_right_eq_some, Option.map_eq_some_iff] at taken
    obtain ⟨worker, pipeline, moved, rfl⟩ := taken
    exact sound.worker worker meets (step_of_next moved)

/-- In a sound system, the build that saw the latest change of a drained client read it as it
is. -/
theorem Sound.built {s : KnowledgeSystem} (sound : Sound s) {clientId : Uuid}
    (drained : Drained s clientId) : s.pipeline.versions clientId = 0 ∨ Built s clientId := by
  refine (sound.counted clientId).imp_right ?_
  rintro ⟨change, listed, client, version⟩
  obtain ⟨build, done, own, saw⟩ | ⟨job, inside, -, own, left⟩ :=
    sound.followed.changes change listed
  · obtain ⟨seen, read, since⟩ := (Option.any_eq_true _ _).mp saw
    have since := of_decide_eq_true since
    have mine : build.clientId = clientId := own.trans client
    obtain ⟨reading, known, rfl⟩ := sound.logged build (List.mem_append_right _ done)
      (by rw [read]; exact Option.some_ne_none seen)
    have bound := sound.bounded reading known seen read
    have latest : seen = s.pipeline.versions reading.build.clientId := by
      rw [mine] at bound ⊢
      omega
    refine ⟨_, done, mine, reading, known, rfl, ?_⟩
    rw [← mine]
    exact sound.current reading known (latest ▸ read)
  · obtain ⟨idle, free, alive⟩ := drained job inside (own.trans client)
    obtain dead | queued | ⟨running, -⟩ := left
    · exact absurd dead alive
    · exact absurd queued idle
    · exact absurd running free

end MarketingOS.KnowledgeSystem
