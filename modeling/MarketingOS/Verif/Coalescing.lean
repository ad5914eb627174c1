import Mathlib.Data.Fintype.EquivFin
import MarketingOS.Services.JobQueue

/-!
# What coalescing keeps

A row of enqueue calls for one client, with no worker step between them. The calls end in one queued
job, which is a full build exactly if one of them asked for it. No names of sources stand for all of
them, and a union does not: one call that names sources narrows a job that names none.
-/
namespace MarketingOS.Coalescing

open JobQueue

/-! ## Calls -/

/-- One call of `enqueue`, without the client. -/
structure Request where
  tick : Tick
  jobType : IntelJobType
  changedKeys : Option (List String)
  debounceSeconds : Int

/-- Several calls for one client, in turn. -/
def enqueueAll (env : Environment) (clientId : Uuid) :
    List Request → List IntelJob → List IntelJob
  | [], jobs => jobs
  | request :: rest, jobs =>
    enqueueAll env clientId rest
      (enqueue env request.tick clientId request.jobType request.changedKeys
        request.debounceSeconds jobs)

/-- The time before which a call has its job wait. -/
def Request.runAfter (request : Request) : Option Timestamp :=
  if request.debounceSeconds = 0 then none
  else some (request.tick.now + request.debounceSeconds * second)

/-- A queued job after a call has coalesced into it. -/
def absorb (job : IntelJob) (request : Request) : IntelJob :=
  coalesce request.jobType request.changedKeys request.runAfter job

/-- The job a call adds. -/
def Request.job (clientId : Uuid) (request : Request) : IntelJob :=
  newJob request.tick clientId request.jobType request.changedKeys request.runAfter

/-- The sources a call or a job names. -/
def named (changedKeys : Option (List String)) : List String := changedKeys.getD []

/-! ## One queued job -/

variable {env : Environment} {clientId : Uuid} {jobs : List IntelJob}

/-- A client without a queued job. -/
theorem pending_none (free : pendingForClient jobs clientId = none) :
    jobs.filter (isPendingFor clientId) = [] := by
  unfold pendingForClient at free
  cases rows : jobs.filter (isPendingFor clientId) with
  | nil => rfl
  | cons first rest =>
    rw [rows, firstBy] at free
    split at free
    · cases free
    · split at free
      · cases free
      · cases free

/-- A client with one queued job. -/
theorem pending_one {job : IntelJob} (only : jobs.filter (isPendingFor clientId) = [job]) :
    pendingForClient jobs clientId = some job := by
  rw [pendingForClient, only]
  rfl

/-- A new job is queued for its client. -/
theorem isPendingFor_job (clientId : Uuid) (request : Request) :
    isPendingFor clientId (request.job clientId) = true := by
  simp [isPendingFor, Request.job, newJob]

/-- Coalescing leaves a job queued for its client. -/
theorem isPendingFor_absorb (job : IntelJob) (request : Request) :
    isPendingFor clientId (absorb job request) = isPendingFor clientId job := rfl

/-- So do several calls. -/
theorem isPendingFor_foldl (job : IntelJob) (requests : List Request) :
    isPendingFor clientId (requests.foldl absorb job) = isPendingFor clientId job := by
  induction requests generalizing job with
  | nil => rfl
  | cons request rest ih => exact (ih (absorb job request)).trans (isPendingFor_absorb job request)

/-- A call that finds no queued job adds one. -/
theorem enqueue_new (enabled : env.intelligenceEnabled = true)
    (free : pendingForClient jobs clientId = none) (request : Request) :
    enqueue env request.tick clientId request.jobType request.changedKeys request.debounceSeconds
      jobs = jobs ++ [request.job clientId] := by
  simp only [enqueue, enabled, ↓reduceIte, free, Request.job, Request.runAfter]

/-- A call that finds the last row queued, and no other, coalesces into it. -/
theorem enqueue_absorb (enabled : env.intelligenceEnabled = true) {job : IntelJob}
    (free : jobs.filter (isPendingFor clientId) = []) (queued : isPendingFor clientId job = true)
    (fresh : job.id ∉ jobs.map IntelJob.id) (request : Request) :
    enqueue env request.tick clientId request.jobType request.changedKeys request.debounceSeconds
      (jobs ++ [job]) = jobs ++ [absorb job request] := by
  have only : (jobs ++ [job]).filter (isPendingFor clientId) = [job] := by
    rw [List.filter_append, free, List.filter_singleton, queued]
    rfl
  have others : Table.modify IntelJob.id job.id
      (coalesce request.jobType request.changedKeys request.runAfter) jobs = jobs := by
    apply (List.map_congr_left fun row inside => ?_).trans (List.map_id jobs)
    have apart : row.id ≠ job.id := fun same => fresh (same ▸ List.mem_map_of_mem inside)
    rw [if_neg apart, id]
  have last : enqueue env request.tick clientId request.jobType request.changedKeys
      request.debounceSeconds (jobs ++ [job]) = Table.modify IntelJob.id job.id
        (coalesce request.jobType request.changedKeys request.runAfter) (jobs ++ [job]) := by
    simp only [enqueue, enabled, ↓reduceIte, pending_one only, Request.runAfter]
  have append : Table.modify IntelJob.id job.id
      (coalesce request.jobType request.changedKeys request.runAfter) (jobs ++ [job]) =
        Table.modify IntelJob.id job.id
          (coalesce request.jobType request.changedKeys request.runAfter) jobs ++
            [absorb job request] := by
    simp only [Table.modify, List.map_append, List.map_singleton, ↓reduceIte, absorb]
  rw [last, append, others]

/-- The calls after the first coalesce into its job, one by one. -/
theorem enqueueAll_absorb (enabled : env.intelligenceEnabled = true) {job : IntelJob}
    (free : jobs.filter (isPendingFor clientId) = []) (queued : isPendingFor clientId job = true)
    (fresh : job.id ∉ jobs.map IntelJob.id) (requests : List Request) :
    enqueueAll env clientId requests (jobs ++ [job]) = jobs ++ [requests.foldl absorb job] := by
  induction requests generalizing job with
  | nil => rfl
  | cons request rest ih =>
    rw [enqueueAll, enqueue_absorb enabled free queued fresh, List.foldl_cons]
    exact ih ((isPendingFor_absorb job request).trans queued) fresh

/-- All calls together add one job. -/
theorem enqueueAll_eq (enabled : env.intelligenceEnabled = true)
    (free : pendingForClient jobs clientId = none) (first : Request) (rest : List Request)
    (fresh : first.tick.jobId ∉ jobs.map IntelJob.id) :
    enqueueAll env clientId (first :: rest) jobs =
      jobs ++ [rest.foldl absorb (first.job clientId)] := by
  rw [enqueueAll, enqueue_new enabled free]
  exact enqueueAll_absorb enabled (pending_none free) (isPendingFor_job clientId first) fresh rest

/-- Without the pipeline no call does anything. -/
theorem enqueueAll_disabled (disabled : env.intelligenceEnabled = false) (requests : List Request) :
    enqueueAll env clientId requests jobs = jobs := by
  induction requests with
  | nil => rfl
  | cons request rest ih =>
    have skipped : enqueue env request.tick clientId request.jobType request.changedKeys
        request.debounceSeconds jobs = jobs := by
      simp only [enqueue, disabled, Bool.false_eq_true, ↓reduceIte]
    rw [enqueueAll, skipped, ih]

/-! ## What the job asks for -/

/-- A sorted set has the members of the list. -/
theorem mem_sortedSet {key : String} {keys : List String} : key ∈ sortedSet keys ↔ key ∈ keys := by
  rw [sortedSet, List.mem_mergeSort, List.mem_eraseDups]

/-- A merged payload names what either names. -/
theorem mem_named_mergeKeys {key : String} {stored changedKeys : Option (List String)} :
    key ∈ named (mergeKeys stored changedKeys) ↔ key ∈ named stored ∨ key ∈ named changedKeys := by
  have union : key ∈ sortedSet (stored.getD [] ++ changedKeys.getD []) ↔
      key ∈ named stored ∨ key ∈ named changedKeys := by
    rw [mem_sortedSet, List.mem_append, named, named]
  by_cases empty : (sortedSet (stored.getD [] ++ changedKeys.getD [])).isEmpty = true
  · rw [List.isEmpty_iff] at empty
    have neither : ¬(key ∈ named stored ∨ key ∈ named changedKeys) := by
      rw [← union, empty]
      exact List.not_mem_nil
    have kept : mergeKeys stored changedKeys = stored := by
      simp only [mergeKeys, empty, List.isEmpty_nil, ↓reduceIte]
    rw [kept]
    exact ⟨.inl, fun either => absurd either neither⟩
  · have merged : mergeKeys stored changedKeys =
        some (sortedSet (stored.getD [] ++ changedKeys.getD [])) := by
      simp only [mergeKeys, empty, Bool.false_eq_true, ↓reduceIte]
    rw [merged, ← union]
    rfl

/-- A new job names what its call names. -/
theorem mem_named_job {key : String} {request : Request} :
    key ∈ named (request.job clientId).changedKeys ↔ key ∈ named request.changedKeys := by
  simp only [Request.job, newJob, named]
  cases request.changedKeys with
  | none => exact Iff.rfl
  | some keys =>
    cases keys with
    | nil => exact Iff.rfl
    | cons first rest => exact mem_sortedSet

/-- The coalesced job names what the job or a call named. -/
theorem mem_named_foldl {key : String} {job : IntelJob} {requests : List Request} :
    key ∈ named (requests.foldl absorb job).changedKeys ↔
      key ∈ named job.changedKeys ∨ ∃ request ∈ requests, key ∈ named request.changedKeys := by
  induction requests generalizing job with
  | nil => simp
  | cons request rest ih =>
    rw [List.foldl_cons, ih, List.exists_mem_cons_iff, ← or_assoc]
    exact or_congr_left mem_named_mergeKeys

/-- The coalesced job is a full build when the job was one or a call asked for one. -/
theorem jobType_foldl {job : IntelJob} {requests : List Request} :
    (requests.foldl absorb job).jobType = .fullBuild ↔
      job.jobType = .fullBuild ∨ ∃ request ∈ requests, request.jobType = .fullBuild := by
  induction requests generalizing job with
  | nil => simp
  | cons request rest ih =>
    have merged : (absorb job request).jobType = .fullBuild ↔
        job.jobType = .fullBuild ∨ request.jobType = .fullBuild := by
      by_cases full : request.jobType = .fullBuild
      · simp [absorb, coalesce, full]
      · simp [absorb, coalesce, full]
    rw [List.foldl_cons, ih, List.exists_mem_cons_iff, ← or_assoc, merged]

/-! ## Coverage -/

/-- The sources a payload covers: none named stands for all. -/
def ByKeys (_ : IntelJobType) (changedKeys : Option (List String)) (key : String) : Prop :=
  named changedKeys = [] ∨ key ∈ named changedKeys

/-- The sources a build covers: the payload only narrows an incremental one. -/
def ByBuild (jobType : IntelJobType) (changedKeys : Option (List String)) (key : String) : Prop :=
  jobType = .fullBuild ∨ ByKeys jobType changedKeys key

/-- The calls leave one queued job, a full build exactly if one asked for it, that covers what each
of them asked for. -/
def Kept (covers : IntelJobType → Option (List String) → String → Prop) (env : Environment)
    (clientId : Uuid) (jobs : List IntelJob) (requests : List Request) : Prop :=
  ∃ job, (enqueueAll env clientId requests jobs).filter (isPendingFor clientId) = [job] ∧
    (job.jobType = .fullBuild ↔ ∃ request ∈ requests, request.jobType = .fullBuild) ∧
    ∀ request ∈ requests, ∀ key, covers request.jobType request.changedKeys key →
      covers job.jobType job.changedKeys key

/-- Every call names sources, or none does. -/
def Uniform (requests : List Request) : Prop :=
  (∀ request ∈ requests, named request.changedKeys ≠ []) ∨
    ∀ request ∈ requests, named request.changedKeys = []

/-- No list names every source. -/
theorem exists_unnamed (keys : List String) : ∃ key, key ∉ keys := by
  obtain ⟨key, outside⟩ := Infinite.exists_notMem_finset keys.toFinset
  exact ⟨key, fun inside => outside (List.mem_toFinset.mpr inside)⟩

variable {request : Request} {requests : List Request} {job : IntelJob}

/-- Of a job that names what some call names, the sources cover those of every call exactly if the
calls are uniform. -/
theorem byKeys_iff (union : ∀ key, key ∈ named job.changedKeys ↔
      ∃ request ∈ requests, key ∈ named request.changedKeys) :
    (∀ request ∈ requests, ∀ key, ByKeys request.jobType request.changedKeys key →
      ByKeys job.jobType job.changedKeys key) ↔ Uniform requests := by
  constructor
  · intro covers
    by_cases names : ∃ request ∈ requests, named request.changedKeys ≠ []
    · obtain ⟨some', inside, nonempty⟩ := names
      obtain ⟨key, listed⟩ := List.exists_mem_of_ne_nil _ nonempty
      have jobNames : named job.changedKeys ≠ [] :=
        List.ne_nil_of_mem ((union key).mpr ⟨some', inside, listed⟩)
      refine .inl fun request member all => ?_
      obtain ⟨other, outside⟩ := exists_unnamed (named job.changedKeys)
      exact (covers request member other (.inl all)).elim jobNames outside
    · refine .inr fun request inside => ?_
      by_contra nonempty
      exact names ⟨request, inside, nonempty⟩
  · rintro (all | none) request inside key asked
    · exact .inr ((union key).mpr ⟨request, inside, asked.resolve_left (all request inside)⟩)
    · refine .inl (List.eq_nil_iff_forall_not_mem.mpr fun other listed => ?_)
      obtain ⟨call, member, names⟩ := (union other).mp listed
      rw [none call member] at names
      cases names

/-- Of a full build the sources cover everything, of an incremental one those its payload does. -/
theorem byBuild_iff (union : ∀ key, key ∈ named job.changedKeys ↔
      ∃ request ∈ requests, key ∈ named request.changedKeys)
    (dominates : job.jobType = .fullBuild ↔
      ∃ request ∈ requests, request.jobType = .fullBuild) :
    (∀ request ∈ requests, ∀ key, ByBuild request.jobType request.changedKeys key →
      ByBuild job.jobType job.changedKeys key) ↔
      (∃ request ∈ requests, request.jobType = .fullBuild) ∨ Uniform requests := by
  by_cases full : job.jobType = .fullBuild
  · exact ⟨fun _ => .inl (dominates.mp full), fun _ _ _ _ _ => .inl full⟩
  · have incremental : ∀ request ∈ requests, request.jobType ≠ .fullBuild :=
      fun request inside asked => full (dominates.mpr ⟨request, inside, asked⟩)
    have payloads : (∀ request ∈ requests, ∀ key,
          ByBuild request.jobType request.changedKeys key →
            ByBuild job.jobType job.changedKeys key) ↔ Uniform requests := by
      rw [← byKeys_iff union]
      constructor
      · intro covers request inside key asked
        exact (covers request inside key (.inr asked)).resolve_left full
      · intro covers request inside key asked
        exact .inr (covers request inside key (asked.resolve_left (incremental request inside)))
    rw [payloads]
    exact ⟨.inr, fun either => either.resolve_left fun asked => full (dominates.mpr asked)⟩

/-- **Coalescing.** Starting from no queued job, the calls are kept exactly if the pipeline is on
and every call names sources or none does; of a full build nothing is narrowed either way. -/
theorem coalescing_kept_iff (env : Environment) (clientId : Uuid) (jobs : List IntelJob)
    (first : Request) (rest : List Request) (free : pendingForClient jobs clientId = none)
    (fresh : first.tick.jobId ∉ jobs.map IntelJob.id) :
    (Kept ByKeys env clientId jobs (first :: rest) ↔
      env.intelligenceEnabled = true ∧ Uniform (first :: rest)) ∧
    (Kept ByBuild env clientId jobs (first :: rest) ↔
      env.intelligenceEnabled = true ∧
        ((∃ request ∈ first :: rest, request.jobType = .fullBuild) ∨ Uniform (first :: rest))) := by
  cases enabled : env.intelligenceEnabled with
  | false =>
    have none (covers : IntelJobType → Option (List String) → String → Prop) :
        ¬Kept covers env clientId jobs (first :: rest) := by
      rintro ⟨job, only, -⟩
      rw [enqueueAll_disabled enabled, pending_none free] at only
      cases only
    simp [none]
  | true =>
    have queue : (enqueueAll env clientId (first :: rest) jobs).filter (isPendingFor clientId) =
        [rest.foldl absorb (first.job clientId)] := by
      have queued : isPendingFor clientId (rest.foldl absorb (first.job clientId)) = true :=
        (isPendingFor_foldl _ rest).trans (isPendingFor_job clientId first)
      rw [enqueueAll_eq enabled free first rest fresh, List.filter_append, pending_none free,
        List.filter_singleton, queued]
      rfl
    have union (key : String) : key ∈ named (rest.foldl absorb (first.job clientId)).changedKeys ↔
        ∃ request ∈ first :: rest, key ∈ named request.changedKeys := by
      rw [mem_named_foldl, mem_named_job, List.exists_mem_cons_iff]
    have dominates : (rest.foldl absorb (first.job clientId)).jobType = .fullBuild ↔
        ∃ request ∈ first :: rest, request.jobType = .fullBuild := by
      rw [jobType_foldl, List.exists_mem_cons_iff]
      rfl
    have only (covers : IntelJobType → Option (List String) → String → Prop) :
        Kept covers env clientId jobs (first :: rest) ↔
          ∀ request ∈ first :: rest, ∀ key, covers request.jobType request.changedKeys key →
            covers (rest.foldl absorb (first.job clientId)).jobType
              (rest.foldl absorb (first.job clientId)).changedKeys key := by
      constructor
      · rintro ⟨job, same, -, covered⟩
        rw [queue] at same
        obtain rfl := List.singleton_inj.mp same
        exact covered
      · exact fun covered => ⟨_, queue, dominates, covered⟩
    rw [only, only, byKeys_iff union, byBuild_iff union dominates]
    simp

/-- A call after a brand edit. -/
def sampleBrand : Request := ⟨⟨20, 101, 201, 301⟩, .incremental, some ["brand"], 5⟩

/-- A call that names no sources. -/
def sampleAll : Request := ⟨⟨10, 100, 200, 300⟩, .incremental, none, 0⟩

/-- Two calls that name sources are kept. -/
theorem sample_kept :
    pendingForClient [] 2 = none ∧
      Kept ByKeys ⟨true, []⟩ 2 [] [sampleBrand, { sampleBrand with changedKeys := some ["basics"] }] :=
  ⟨rfl, (coalescing_kept_iff ⟨true, []⟩ 2 [] sampleBrand _ rfl (by simp)).1.mpr
    ⟨rfl, .inl (by decide)⟩⟩

/-- A call for all sources, followed by one for the brand, leaves an incremental build of the brand
alone. -/
theorem all_then_brand :
    pendingForClient [] 2 = none ∧
      ¬Kept ByKeys ⟨true, []⟩ 2 [] [sampleAll, sampleBrand] ∧
      ¬Kept ByBuild ⟨true, []⟩ 2 [] [sampleAll, sampleBrand] := by
  have shape : ((enqueueAll ⟨true, []⟩ 2 [sampleAll, sampleBrand] []).filter
      (isPendingFor 2)).map (fun job => (job.jobType, job.changedKeys)) =
        [(.incremental, some ["brand"])] := by decide +kernel
  have narrowed (job : IntelJob) (only : (enqueueAll ⟨true, []⟩ 2 [sampleAll, sampleBrand] []).filter
      (isPendingFor 2) = [job]) : job.jobType = .incremental ∧ job.changedKeys = some ["brand"] := by
    rw [only, List.map_singleton] at shape
    exact Prod.mk.inj (List.singleton_inj.mp shape)
  have uncovered : ¬ByKeys .incremental (some ["brand"]) "basics" := by
    simp [ByKeys, named]
  refine ⟨rfl, ?_, ?_⟩
  · rintro ⟨job, only, -, covered⟩
    obtain ⟨incremental, keys⟩ := narrowed job only
    have basics := covered sampleAll (List.mem_cons_self) "basics" (.inl rfl)
    rw [keys] at basics
    exact uncovered basics
  · rintro ⟨job, only, -, covered⟩
    obtain ⟨incremental, keys⟩ := narrowed job only
    have basics := covered sampleAll (List.mem_cons_self) "basics" (.inr (.inl rfl))
    rw [keys, incremental] at basics
    exact uncovered (basics.resolve_left (by simp))

end MarketingOS.Coalescing
