import MarketingOS.Services.BuildPipeline
import MarketingOS.Verif.JobQueueSafety

/-! # Who holds a running job

Every step of the requests and workers is listed once, with what it leaves. The queue under them
stays sound, and every build names a job that is at least as old as its claim. As long as the
sweep takes no job from a worker that is still at it, every build holds its job: then a client
has one build at most, and a callback changes the job of its own worker only. -/
namespace MarketingOS.BuildPipeline

open JobQueue

variable {env : Environment}

/-! ## Steps -/

/-- What one step does: one case for each way a transaction can end. -/
inductive Step (env : Environment) (p : Pipeline) : Label → Pipeline → Prop where
  | enqueued (clientId : Uuid) (jobType : IntelJobType) (changedKeys : Option (List String))
      (debounceSeconds : Int) (now : Timestamp) :
      Step env p (.enqueue clientId jobType changedKeys debounceSeconds now)
        { p with
          requests := p.requests ++
            [.ofEnqueue env clientId jobType changedKeys debounceSeconds now p.jobs] }
  | coalesced (r : Nat) (tick : Tick) (request : Request) (existing : IntelJob)
      (was : p.requests[r]? = some request) (found : request.existing = some existing) :
      Step env p (.commit r tick)
        (p.close r request.clientId
          (Table.modify IntelJob.id existing.id
            (writeBack existing
              (coalesce request.jobType request.changedKeys request.runAfter existing)) p.jobs)
          [⟨request.clientId, p.versions request.clientId + 1, existing.id⟩])
  | added (r : Nat) (tick : Tick) (request : Request) (was : p.requests[r]? = some request)
      (fresh : Table.has IntelJob.id p.jobs tick.jobId = false) :
      Step env p (.commit r tick)
        (p.close r request.clientId
          (p.jobs ++
            [newJob tick request.clientId request.jobType request.changedKeys request.runAfter])
          [⟨request.clientId, p.versions request.clientId + 1, tick.jobId⟩])
  | unheeded (r : Nat) (tick : Tick) (request : Request) (was : p.requests[r]? = some request) :
      Step env p (.commit r tick) (p.close r request.clientId p.jobs [])
  | rolledBack (r : Nat) : Step env p (.rollBack r) { p with requests := p.requests.eraseIdx r }
  | swept (now : Timestamp) :
      Step env p (.reclaimStale now) { p with jobs := reclaimStale now p.jobs }
  | idled (worker : String) (now : Timestamp) (busy : Nat → List Uuid) (locked : List Uuid) :
      Step env p (.claimNext worker now busy locked) p
  | claimed (worker : String) (now : Timestamp) (busy : Nat → List Uuid) (locked : List Uuid)
      (job : IntelJob) (idle : Table.has Build.worker p.builds worker = false)
      (inside : job ∈ p.jobs) (queued : job.status = .queued)
      (free : clientRunning p.jobs job.clientId = false) :
      Step env p (.claimNext worker now busy locked)
        { p with
          jobs := Table.modify IntelJob.id job.id (claim worker now) p.jobs
          builds := p.builds ++ [⟨worker, job.id, job.clientId, job.attempts + 1, none⟩] }
  | read (build : Build) (inside : build ∈ p.builds) :
      Step env p (.readClient build.worker)
        { p with
          builds := Table.modify Build.worker build.worker
            (fun build => { build with read := some (p.versions build.clientId) }) p.builds }
  | succeeded (build : Build) (seen : Nat) (inside : build ∈ p.builds)
      (read : build.read = some seen) :
      Step env p (.succeed build.worker)
        { p.leave build.worker (Table.modify IntelJob.id build.jobId succeed p.jobs) with
          completed := build :: p.completed }
  | failed (build : Build) (now : Timestamp) (error : String) (inside : build ∈ p.builds) :
      Step env p (.fail build.worker now error)
        (p.leave build.worker (Table.modify IntelJob.id build.jobId (fail now error) p.jobs))
  | crashed (worker : String) : Step env p (.crash worker) (p.leave worker p.jobs)

/-- The inversion of the step function. -/
theorem step_of_next {p p' : Pipeline} {label : Label} (taken : next env p label = some p') :
    Step env p label p' := by
  cases label with
  | enqueue clientId jobType changedKeys debounceSeconds now =>
    obtain rfl := Option.some.inj taken
    exact .enqueued clientId jobType changedKeys debounceSeconds now
  | commit r tick =>
    simp only [next] at taken
    split at taken
    · cases taken
    · next request was =>
      split at taken
      · obtain ⟨jobs, sent, rfl⟩ := Option.map_eq_some_iff.mp taken
        cases found : request.existing with
        | some existing =>
          simp only [Request.flush, found, Option.some.injEq] at sent
          subst sent
          simp only [Request.jobId, found]
          exact .coalesced r tick request existing was found
        | none =>
          simp only [Request.flush, found, Option.ite_none_left_eq_some, Option.some.injEq] at sent
          obtain ⟨fresh, rfl⟩ := sent
          simp only [Request.jobId, found]
          exact .added r tick request was ((Bool.not_eq_true _).mp fresh)
      · obtain rfl := Option.some.inj taken
        exact .unheeded r tick request was
  | rollBack r =>
    obtain rfl := Option.some.inj taken
    exact .rolledBack r
  | reclaimStale now =>
    obtain rfl := Option.some.inj taken
    exact .swept now
  | claimNext worker now busy locked =>
    simp only [next] at taken
    split at taken
    · cases taken
    · next idle =>
      split at taken
      · obtain rfl := Option.some.inj taken
        exact .idled worker now busy locked
      · next returned =>
        obtain rfl := Option.some.inj taken
        obtain ⟨job, inside, rfl, queued, -, free, -, rfl⟩ := claimAttempts_some returned
        exact .claimed worker now busy locked job ((Bool.not_eq_true _).mp idle) inside queued free
  | readClient worker =>
    simp only [next] at taken
    split at taken
    · cases taken
    · next build found =>
      simp only [Option.ite_none_right_eq_some, Option.some.injEq] at taken
      obtain ⟨-, rfl⟩ := taken
      obtain rfl := Table.get_key found
      exact .read build (Table.get_mem found)
  | succeed worker =>
    simp only [next] at taken
    split at taken
    · cases taken
    · next build found =>
      simp only [Option.ite_none_left_eq_some, Option.some.injEq] at taken
      obtain ⟨read, rfl⟩ := taken
      obtain ⟨seen, read⟩ := Option.ne_none_iff_exists'.mp read
      obtain rfl := Table.get_key found
      exact .succeeded build seen (Table.get_mem found) read
  | fail worker now error =>
    simp only [next] at taken
    split at taken
    · cases taken
    · next build found =>
      obtain rfl := Option.some.inj taken
      obtain rfl := Table.get_key found
      exact .failed build now error (Table.get_mem found)
  | crash worker =>
    simp only [next, Option.ite_none_right_eq_some, Option.some.injEq] at taken
    obtain ⟨-, rfl⟩ := taken
    exact .crashed worker

/-! ## Requests -/

/-- A row written back right after it was read is the coalesced row. -/
theorem writeBack_self (jobType : IntelJobType) (changedKeys : Option (List String))
    (runAfter : Option Timestamp) (job : IntelJob) :
    writeBack job (coalesce jobType changedKeys runAfter job) job =
      coalesce jobType changedKeys runAfter job := by
  have kept {α : Type} [DecidableEq α] (read assigned : α) :
      flushed read assigned read = assigned := by
    unfold flushed
    split
    · next same => exact same.symm
    · rfl
  simp only [writeBack, kept]
  rfl

/-- A request that commits before anything else moves leaves the rows `enqueue` describes. -/
theorem flush_ofEnqueue {tick : Tick} {clientId : Uuid} {jobType : IntelJobType}
    {changedKeys : Option (List String)} {debounceSeconds : Int} {jobs : List IntelJob}
    (enabled : env.intelligenceEnabled = true) (distinct : (jobs.map IntelJob.id).Nodup)
    (fresh : Table.has IntelJob.id jobs tick.jobId = false) :
    (Request.ofEnqueue env clientId jobType changedKeys debounceSeconds tick.now jobs).flush tick
      jobs = some (enqueue env tick clientId jobType changedKeys debounceSeconds jobs) := by
  simp only [Request.flush, Request.ofEnqueue, enqueue, enabled, ↓reduceIte]
  cases found : pendingForClient jobs clientId with
  | none => simp [fresh]
  | some existing =>
    have member : existing ∈ jobs := (List.mem_filter.mp (mem_of_firstBy found)).1
    simp only [Option.some.injEq]
    apply List.map_congr_left
    intro job inside
    by_cases same : job.id = existing.id
    · obtain rfl := List.inj_on_of_nodup_map distinct inside member same
      simp only [writeBack_self]
    · simp only [same, ↓reduceIte]

/-- Writing a coalesced job back is quiet. -/
theorem writeBack_quiet (read assigned : IntelJob) : Quiet (writeBack read assigned) :=
  ⟨fun _ => rfl, fun _ => rfl, fun _ => rfl, fun _ running => running, fun _ bounded => bounded⟩

/-! ## What every step keeps -/

/-- A build names a job of its client that is at least as old as the claim. -/
def Build.Named (jobs : List IntelJob) (build : Build) : Prop :=
  ∃ job ∈ jobs, job.id = build.jobId ∧ job.clientId = build.clientId ∧
    build.attempt ≤ job.attempts

/-- The job a request coalesces into is a job of its client. -/
def Request.Named (jobs : List IntelJob) (request : Request) : Prop :=
  ∀ existing, request.existing = some existing →
    ∃ job ∈ jobs, job.id = existing.id ∧ job.clientId = request.clientId

/-- What holds in every reachable state, whatever the workers do. -/
structure Tracked (p : Pipeline) : Prop where
  sound : Sound p.jobs
  workers : (p.builds.map Build.worker).Nodup
  builds : ∀ build ∈ p.builds, build.Named p.jobs
  requests : ∀ request ∈ p.requests, request.Named p.jobs
  versions : ∀ change ∈ p.changes, change.version ≤ p.versions change.clientId

/-- A build goes on to name its job. -/
theorem Build.Named.continues {before after : List IntelJob} {build : Build}
    (named : build.Named before) (continues : Continues before after) : build.Named after := by
  obtain ⟨job, inside, id, client, attempt⟩ := named
  obtain ⟨later, member, sameId, sameClient, more⟩ := continues job inside
  exact ⟨later, member, sameId.trans id, sameClient.trans client, Nat.le_trans attempt more⟩

/-- A request goes on to name its job. -/
theorem Request.Named.continues {before after : List IntelJob} {request : Request}
    (named : request.Named before) (continues : Continues before after) :
    request.Named after := by
  intro existing found
  obtain ⟨job, inside, id, client⟩ := named existing found
  obtain ⟨later, member, sameId, sameClient, -⟩ := continues job inside
  exact ⟨later, member, sameId.trans id, sameClient.trans client⟩

/-- The job `enqueue` finds is a job of the client. -/
theorem named_ofEnqueue (clientId : Uuid) (jobType : IntelJobType)
    (changedKeys : Option (List String)) (debounceSeconds : Int) (now : Timestamp)
    (jobs : List IntelJob) :
    (Request.ofEnqueue env clientId jobType changedKeys debounceSeconds now jobs).Named jobs := by
  intro existing found
  simp only [Request.ofEnqueue, Option.ite_none_right_eq_some] at found
  obtain ⟨inside, pending⟩ := List.mem_filter.mp (mem_of_firstBy found.2)
  simp only [isPendingFor, Bool.and_eq_true, decide_eq_true_eq] at pending
  exact ⟨existing, inside, rfl, pending.1⟩

namespace Tracked

variable {p : Pipeline}

/-- New rows under jobs that go on. -/
theorem rows (tracked : Tracked p) {jobs : List IntelJob} (sound : Sound jobs)
    (continues : Continues p.jobs jobs) : Tracked { p with jobs := jobs } where
  sound := sound
  workers := tracked.workers
  builds build inside := (tracked.builds build inside).continues continues
  requests request inside := (tracked.requests request inside).continues continues
  versions := tracked.versions

/-- A worker leaves. -/
theorem leave (tracked : Tracked p) (worker : String) {jobs : List IntelJob} (sound : Sound jobs)
    (continues : Continues p.jobs jobs) : Tracked (p.leave worker jobs) where
  sound := sound
  workers := tracked.workers.sublist (List.filter_sublist.map _)
  builds build inside :=
    (tracked.builds build (List.mem_filter.mp inside).1).continues continues
  requests request inside := (tracked.requests request inside).continues continues
  versions := tracked.versions

/-- A request commits. -/
theorem close (tracked : Tracked p) (r : Nat) (clientId : Uuid) {jobs : List IntelJob}
    {changes : List DataChange} (sound : Sound jobs) (continues : Continues p.jobs jobs)
    (numbered : ∀ change ∈ changes, change.clientId = clientId ∧
      change.version = p.versions clientId + 1) : Tracked (p.close r clientId jobs changes) where
  sound := sound
  workers := tracked.workers
  builds build inside := (tracked.builds build inside).continues continues
  requests request inside :=
    (tracked.requests request (List.mem_of_mem_eraseIdx inside)).continues continues
  versions change inside := by
    obtain new | old := List.mem_append.mp inside
    · obtain ⟨rfl, number⟩ := numbered change new
      simp [Pipeline.close, number]
    · have known := tracked.versions change old
      simp only [Pipeline.close]
      split
      · next same =>
        rw [same] at known
        exact Nat.le_succ_of_le known
      · exact known

/-- Every step keeps the invariant. -/
theorem step {p' : Pipeline} {label : Label} (tracked : Tracked p)
    (taken : Step env p label p') : Tracked p' := by
  cases taken with
  | enqueued clientId jobType changedKeys debounceSeconds now =>
    refine ⟨tracked.sound, tracked.workers, tracked.builds, ?_, tracked.versions⟩
    intro request inside
    obtain old | new := List.mem_append.mp inside
    · exact tracked.requests request old
    · obtain rfl := List.mem_singleton.mp new
      exact named_ofEnqueue clientId jobType changedKeys debounceSeconds now p.jobs
  | coalesced r tick request existing was found =>
    have quiet := writeBack_quiet existing
      (coalesce request.jobType request.changedKeys request.runAfter existing)
    exact tracked.close r request.clientId (tracked.sound.modify quiet existing.id)
      (quiet.continues_modify existing.id p.jobs) (by simp)
  | added r tick request was fresh =>
    exact tracked.close r request.clientId
      (tracked.sound.append fresh rfl (newJob_bounded _ _ _ _ _)) (continues_append p.jobs _)
      (by simp)
  | unheeded r tick request was =>
    exact tracked.close r request.clientId tracked.sound (continues_refl p.jobs) (by simp)
  | rolledBack r =>
    exact ⟨tracked.sound, tracked.workers, tracked.builds,
      fun request inside => tracked.requests request (List.mem_of_mem_eraseIdx inside),
      tracked.versions⟩
  | swept now =>
    have quiet := (reclaim_quiet now).ite fun job => isStale now job = true
    exact tracked.rows (tracked.sound.map quiet) (quiet.continues p.jobs)
  | idled worker now busy locked => exact tracked
  | claimed worker now busy locked job idle inside queued free =>
    have continues := continues_claim worker now job.id p.jobs
    refine ⟨tracked.sound.claim inside queued free worker now, ?_, ?_,
      fun request still => (tracked.requests request still).continues continues,
      tracked.versions⟩
    · simp only [Table.has, List.any_eq_false, decide_eq_true_eq] at idle
      rw [List.map_append, List.nodup_append]
      refine ⟨tracked.workers, by simp, ?_⟩
      intro _ earlier _ last same
      obtain ⟨build, member, rfl⟩ := List.mem_map.mp earlier
      simp only [List.map_cons, List.map_nil, List.mem_singleton] at last
      exact idle build member (same.trans last)
    · intro build member
      obtain old | new := List.mem_append.mp member
      · exact (tracked.builds build old).continues continues
      · obtain rfl := List.mem_singleton.mp new
        exact ⟨claim worker now job, Table.mem_modify.mpr (.inr ⟨job, inside, rfl, rfl⟩), rfl, rfl,
          Nat.le_refl _⟩
  | read build inside =>
    refine ⟨tracked.sound, ?_, ?_, tracked.requests, tracked.versions⟩
    · rw [Table.map_modify (fun build : Build => { build with
        read := some (p.versions build.clientId) }) Build.worker fun _ _ => rfl]
      exact tracked.workers
    · intro other member
      obtain ⟨kept, -⟩ | ⟨old, kept, -, rfl⟩ := Table.mem_modify.mp member
      · exact tracked.builds other kept
      · exact tracked.builds old kept
  | succeeded build seen inside read =>
    have left := tracked.leave build.worker (tracked.sound.modify succeed_quiet build.jobId)
      (succeed_quiet.continues_modify build.jobId p.jobs)
    exact ⟨left.sound, left.workers, left.builds, left.requests, left.versions⟩
  | failed build now error inside =>
    have quiet := fail_quiet now error
    exact tracked.leave build.worker (tracked.sound.modify quiet build.jobId)
      (quiet.continues_modify build.jobId p.jobs)
  | crashed worker => exact tracked.leave worker tracked.sound (continues_refl p.jobs)

end Tracked

/-- The invariant of every reachable state. -/
theorem tracked_of_reachable {allowed : Machine.Guard Pipeline Label} {p : Pipeline}
    (reached : (machine env).Reachable allowed p) : Tracked p := by
  apply reached.invariant
  · rintro p ⟨jobs, requests, builds, -, changes⟩
    refine ⟨⟨?_, ?_, ?_⟩, ?_, ?_, ?_, ?_⟩ <;> simp [jobs, requests, builds, changes]
  · intro p label p' tracked _ taken
    exact tracked.step (step_of_next taken)

/-- A job is found under its identifier. -/
theorem Tracked.only {p : Pipeline} (tracked : Tracked p) {job other : IntelJob}
    (inside : job ∈ p.jobs) (member : other ∈ p.jobs) (same : job.id = other.id) : job = other :=
  List.inj_on_of_nodup_map tracked.sound.distinct inside member same

/-- What is known of the job a build names. -/
theorem Tracked.named {p : Pipeline} (tracked : Tracked p) {build : Build} {job : IntelJob}
    (inside : build ∈ p.builds) (member : job ∈ p.jobs) (same : job.id = build.jobId) :
    job.clientId = build.clientId ∧ build.attempt ≤ job.attempts := by
  obtain ⟨own, there, id, client, attempt⟩ := tracked.builds build inside
  obtain rfl := tracked.only member there (same.trans id.symm)
  exact ⟨client, attempt⟩

/-! ## Ownership -/

/-- A sweep takes no job from a worker that is still at it. -/
def SweepsAbandoned : Machine.Guard Pipeline Label
  | p, .reclaimStale now =>
    ∀ build ∈ p.builds, ∀ job ∈ p.jobs, Holds build job → isStale now job = false
  | _, _ => True

instance (p : Pipeline) (label : Label) : Decidable (SweepsAbandoned p label) := by
  cases label <;> dsimp only [SweepsAbandoned] <;> infer_instance

/-- Every build holds its job. -/
def Held (p : Pipeline) : Prop := ∀ build ∈ p.builds, ∃ job ∈ p.jobs, Holds build job

namespace Held

variable {p : Pipeline}

/-- When a worker calls back, the other builds keep the jobs they hold. -/
theorem leave (tracked : Tracked p) (held : Held p) {build : Build} (inside : build ∈ p.builds)
    (change : IntelJob → IntelJob) :
    Held (p.leave build.worker (Table.modify IntelJob.id build.jobId change p.jobs)) := by
  intro other member
  obtain ⟨kept, apart⟩ := List.mem_filter.mp member
  rw [decide_eq_true_eq] at apart
  obtain ⟨own, there, holds⟩ := held build inside
  obtain ⟨job, present, others⟩ := held other kept
  have different : job.id ≠ build.jobId := by
    intro same
    obtain rfl := tracked.only present there (same.trans holds.1.symm)
    exact apart (Option.some.inj (others.2.2.1.symm.trans holds.2.2.1))
  exact ⟨job, Table.mem_modify.mpr (.inl ⟨present, different⟩), others⟩

/-- Every step that respects the builds keeps them in possession of their jobs. -/
theorem step {p' : Pipeline} {label : Label} (tracked : Tracked p) (held : Held p)
    (meets : SweepsAbandoned p label) (taken : Step env p label p') : Held p' := by
  cases taken with
  | enqueued clientId jobType changedKeys debounceSeconds now => exact held
  | coalesced r tick request existing was found =>
    intro build inside
    obtain ⟨job, member, holds⟩ := held build inside
    by_cases same : job.id = existing.id
    · exact ⟨_, Table.mem_modify.mpr (.inr ⟨job, member, same, rfl⟩), holds⟩
    · exact ⟨job, Table.mem_modify.mpr (.inl ⟨member, same⟩), holds⟩
  | added r tick request was fresh =>
    intro build inside
    obtain ⟨job, member, holds⟩ := held build inside
    exact ⟨job, List.mem_append_left _ member, holds⟩
  | unheeded r tick request was => exact held
  | rolledBack r => exact held
  | swept now =>
    intro build inside
    obtain ⟨job, member, holds⟩ := held build inside
    refine ⟨job, List.mem_map.mpr ⟨job, member, ?_⟩, holds⟩
    simp [meets build inside job member holds]
  | idled worker now busy locked => exact held
  | claimed worker now busy locked job idle inside queued free =>
    intro build member
    obtain old | new := List.mem_append.mp member
    · obtain ⟨other, there, holds⟩ := held build old
      -- a job some build holds is running, and the claimed one was queued
      have apart : other.id ≠ job.id := by
        intro same
        obtain rfl := tracked.only there inside same
        cases queued.symm.trans holds.2.1
      exact ⟨other, Table.mem_modify.mpr (.inl ⟨there, apart⟩), holds⟩
    · obtain rfl := List.mem_singleton.mp new
      exact ⟨claim worker now job, Table.mem_modify.mpr (.inr ⟨job, inside, rfl, rfl⟩), rfl, rfl,
        rfl, rfl⟩
  | read build inside =>
    intro other member
    obtain ⟨kept, -⟩ | ⟨old, kept, -, rfl⟩ := Table.mem_modify.mp member
    · exact held other kept
    · exact held old kept
  | succeeded build seen inside read => exact held.leave tracked inside succeed
  | failed build now error inside => exact held.leave tracked inside (fail now error)
  | crashed worker => exact fun build inside => held build (List.mem_filter.mp inside).1

/-- Two builds of one client are one build. -/
theorem unique (tracked : Tracked p) (held : Held p) {a b : Build} (first : a ∈ p.builds)
    (second : b ∈ p.builds) (client : a.clientId = b.clientId) : a = b := by
  obtain ⟨job, member, holds⟩ := held a first
  obtain ⟨other, there, others⟩ := held b second
  have same : job = other := by
    apply tracked.sound.exclusive job member other there _ holds.2.1 others.2.1
    rw [(tracked.named first member holds.1).1, (tracked.named second there others.1).1, client]
  subst same
  exact List.inj_on_of_nodup_map tracked.workers first second
    (Option.some.inj (holds.2.2.1.symm.trans others.2.2.1))

/-- A callback of a worker rewrites the row its build holds and no other. -/
theorem callback (tracked : Tracked p) (held : Held p) {build : Build} (inside : build ∈ p.builds)
    {change : IntelJob → IntelJob} (keeps : ∀ job, (change job).id = job.id) (jobId : Uuid) :
    Table.get IntelJob.id (Table.modify IntelJob.id build.jobId change p.jobs) jobId =
        Table.get IntelJob.id p.jobs jobId ∨
      ∃ job, Table.get IntelJob.id p.jobs jobId = some job ∧ Holds build job := by
  by_cases same : jobId = build.jobId
  · obtain ⟨job, member, holds⟩ := held build inside
    rw [same, ← holds.1]
    exact .inr ⟨job, Table.get_of_mem tracked.sound.distinct member, holds⟩
  · exact .inl (Table.get_modify_other (fun job id => (keeps job).trans id) same)

end Held

/-- As long as sweeps take no job from a worker that is still at it: every build holds its job, a
client has one build at most, a callback of a worker rewrites a job its build holds and nothing
else, and no claim returns a job of a client while a build of that client is executing. -/
theorem one_live_builder (env : Environment) (p : Pipeline)
    (reached : (machine env).Reachable SweepsAbandoned p) :
    (∀ build ∈ p.builds, ∃ job ∈ p.jobs, Holds build job) ∧
    (∀ a ∈ p.builds, ∀ b ∈ p.builds, a.clientId = b.clientId → a = b) ∧
    (∀ label worker p',
      (label = .succeed worker ∨ ∃ now error, label = .fail worker now error) →
      next env p label = some p' →
      ∃ build ∈ p.builds, build.worker = worker ∧ ∀ jobId,
        Table.get IntelJob.id p'.jobs jobId = Table.get IntelJob.id p.jobs jobId ∨
        ∃ job, Table.get IntelJob.id p.jobs jobId = some job ∧ Holds build job) ∧
    ∀ worker now busy locked job jobs,
      claimNext worker now busy locked p.jobs = some (job, jobs) →
      ∀ build ∈ p.builds, build.clientId ≠ job.clientId := by
  have tracked := tracked_of_reachable reached
  have held : Held p := by
    apply reached.induction
    · rintro p ⟨-, -, builds, -⟩ build inside
      simp [builds] at inside
    · intro p label p' before held meets taken
      exact held.step (tracked_of_reachable before) meets (step_of_next taken)
  refine ⟨held, fun a first b second => held.unique tracked first second, ?_, ?_⟩
  · rintro label worker p' called taken
    have step := step_of_next taken
    obtain rfl | ⟨now, error, rfl⟩ := called
    · cases step with
      | succeeded build seen inside read =>
        exact ⟨build, inside, rfl, held.callback tracked inside succeed_quiet.id⟩
    · cases step with
      | failed build now error inside =>
        exact ⟨build, inside, rfl, held.callback tracked inside (fail_quiet now error).id⟩
  · intro worker now busy locked job jobs returned build inside same
    obtain ⟨source, there, rfl, -, -, free, -, -⟩ := claimAttempts_some returned
    obtain ⟨own, member, holds⟩ := held build inside
    have client := (tracked.named inside member holds.1).1.trans same
    exact idle_of_clientRunning free own member client holds.2.1

/-- A sweep that does take such a job leaves its worker with a job it no longer holds. -/
theorem unheld_of_sweep {p : Pipeline} {build : Build} {job : IntelJob} {now : Timestamp}
    (tracked : Tracked p) (member : job ∈ p.jobs) (holds : Holds build job)
    (stale : isStale now job = true) :
    ∀ later ∈ reclaimStale now p.jobs, ¬Holds build later := by
  intro later inside held
  obtain ⟨source, there, rfl⟩ := List.mem_map.mp inside
  have quiet := (reclaim_quiet now).ite fun job => isStale now job = true
  obtain rfl := tracked.only there member (((quiet.id source).symm.trans held.1).trans holds.1.symm)
  have running := held.2.1
  simp only [stale, ↓reduceIte, reclaim] at running
  split at running <;> cases running

/-- Nothing has happened yet. -/
def idlePipeline : Pipeline := ⟨[], fun _ => 0, [], [], [], []⟩

/-- A client is changed and the job of the change claimed. -/
def sampleClaim : List Label :=
  [.enqueue 2 .fullBuild none 0 0, .commit 0 ⟨0, 100, 200, 300⟩,
    .claimNext "one" 10 (fun _ => []) []]

/-- A sweep at the timeout leaves a job with its worker, which then finishes it. -/
theorem build_in_time_keeps_its_job :
    ∃ p, (machine ⟨true, []⟩).play SweepsAbandoned idlePipeline
        (sampleClaim ++ [.reclaimStale (10 + 1800 * second), .readClient "one"]) = some p ∧
      p.builds.map Build.worker = ["one"] ∧
      (∀ build ∈ p.builds, ∃ job ∈ p.jobs, Holds build job) := by
  have played : ((machine ⟨true, []⟩).play SweepsAbandoned idlePipeline
      (sampleClaim ++ [.reclaimStale (10 + 1800 * second), .readClient "one"])).map
      (fun p => p.builds.map Build.worker) = some ["one"] := by decide
  obtain ⟨p, run, shown⟩ := Option.map_eq_some_iff.mp played
  have start : Start idlePipeline := ⟨rfl, rfl, rfl, rfl, rfl⟩
  exact ⟨p, run, shown,
    (one_live_builder ⟨true, []⟩ p ⟨idlePipeline, _, start, Machine.run_of_play run⟩).1⟩

set_option maxRecDepth 4000 in
/-- A build that outlives the timeout by a second: while its worker is still at it, the job of
the same client is handed to another worker, and then the first worker finishes the job the
second one holds. -/
theorem slow_build_loses_its_job :
    Start idlePipeline ∧ ∃ swept build job jobs shared finished,
      (machine ⟨true, []⟩).play Machine.anyStep idlePipeline
        (sampleClaim ++ [.reclaimStale (10 + 1801 * second)]) = some swept ∧
      build ∈ swept.builds ∧
      claimNext "two" (10 + 1802 * second) (fun _ => []) [] swept.jobs = some (job, jobs) ∧
      job.clientId = build.clientId ∧
      (machine ⟨true, []⟩).play Machine.anyStep swept
        [.claimNext "two" (10 + 1802 * second) (fun _ => []) [], .readClient "one"] =
          some shared ∧
      (∀ build ∈ shared.builds, build.worker = "one" → ∀ job ∈ shared.jobs, ¬Holds build job) ∧
      shared.jobs.map (fun job => (job.status, job.lockedBy)) = [(.running, some "two")] ∧
      next ⟨true, []⟩ shared (.succeed "one") = some finished ∧
      finished.jobs.map (fun job => (job.status, job.lockedBy)) =
        [(.succeeded, some "two")] := by
  let start := (machine ⟨true, []⟩).play Machine.anyStep idlePipeline
    (sampleClaim ++ [.reclaimStale (10 + 1801 * second)])
  let both := start.bind fun p => (machine ⟨true, []⟩).play Machine.anyStep p
    [.claimNext "two" (10 + 1802 * second) (fun _ => []) [], .readClient "one"]
  have first : start.map (fun p => (p.builds.map Build.clientId,
      (claimNext "two" (10 + 1802 * second) (fun _ => []) [] p.jobs).map
        fun claimed => claimed.1.clientId)) = some ([2], some 2) := by decide
  have second : both.map (fun p =>
      (decide (∀ build ∈ p.builds, build.worker = "one" → ∀ job ∈ p.jobs, ¬Holds build job),
        p.jobs.map fun job => (job.status, job.lockedBy))) =
      some (true, [(.running, some "two")]) := by decide
  have third : (both.bind fun p => next ⟨true, []⟩ p (.succeed "one")).map
      (fun p => p.jobs.map fun job => (job.status, job.lockedBy)) =
      some [(.succeeded, some "two")] := by decide
  obtain ⟨swept, reached, shown⟩ := Option.map_eq_some_iff.mp first
  obtain ⟨clients, handed⟩ := Prod.mk.inj shown
  obtain ⟨build, rest, executing, client, -⟩ := List.map_eq_cons_iff.mp clients
  obtain ⟨⟨job, jobs⟩, claimed, same⟩ := Option.map_eq_some_iff.mp handed
  obtain ⟨shared, going, seen⟩ := Option.map_eq_some_iff.mp second
  obtain ⟨unheld, rows⟩ := Prod.mk.inj seen
  rw [going, Option.bind_some] at third
  obtain ⟨finished, taken, last⟩ := Option.map_eq_some_iff.mp third
  obtain ⟨same', reached', played⟩ := Option.bind_eq_some_iff.mp going
  obtain rfl := Option.some.inj (reached.symm.trans reached')
  exact ⟨⟨rfl, rfl, rfl, rfl, rfl⟩, swept, build, job, jobs, shared, finished, reached,
    executing ▸ List.mem_cons_self, claimed, same.trans client.symm, played,
    of_decide_eq_true unheld, rows, taken, last⟩

end MarketingOS.BuildPipeline
