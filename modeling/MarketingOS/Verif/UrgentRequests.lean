import MarketingOS.Verif.JobQueueSafety

/-!
# Urgent and debounced requests

Whether an urgent request leaves its client a job that can be claimed at once, and whether a
debounced one waits for the back-off of a failed job. One column holds the time of a debounce, of
an overdue job and of a back-off, so the back-off is remembered beside the rows.
-/
namespace MarketingOS.JobQueue

/-! ## The queue with its back-offs -/

/-- The rows, and the end of the back-off of each job that failed since it was last claimed. -/
structure Watched where
  jobs : List IntelJob
  backOff : Uuid → Option Timestamp

/-- The back-offs after an operation: a failure that does not bury the job begins one, and a claim
ends it. -/
def observe (s : Watched) : Label → Uuid → Option Timestamp
  | .fail jobId now error => fun id =>
    match Table.get IntelJob.id s.jobs jobId with
    | none => s.backOff id
    | some job => if id = jobId ∧ (fail now error job).status = .queued then
        (fail now error job).runAfter else s.backOff id
  | .claimNext workerId now busy locked => fun id =>
    match claimNext workerId now busy locked s.jobs with
    | none => s.backOff id
    | some (job, _) => if id = job.id then none else s.backOff id
  | _ => s.backOff

/-- The machine of the queue, with its back-offs. -/
def watched (env : Environment) : Machine Watched Label where
  start s := s.jobs = [] ∧ ∀ id, s.backOff id = none
  next s label := (next env s.jobs label).map fun jobs => ⟨jobs, observe s label⟩

/-- Every reachable queue is sound. -/
theorem watched_sound {env : Environment} {s : Watched}
    (reached : (watched env).Reachable Machine.anyStep s) : Sound s.jobs := by
  apply reached.invariant fun s => Sound s.jobs
  · rintro s ⟨bare, -⟩
    rw [bare]
    exact ⟨List.nodup_nil, by simp, by simp⟩
  · intro s label s' sound _ taken
    obtain ⟨jobs, moved, rfl⟩ := Option.map_eq_some_iff.mp taken
    exact next_sound sound moved

/-! ## What a request is for -/

/-- The client has a queued job that is due. -/
def MayHandOut (now : Timestamp) (jobs : List IntelJob) (clientId : Uuid) : Prop :=
  ∃ job ∈ jobs, job.clientId = clientId ∧ isCandidate now [] [] [] job = true

/-- The clients that have a job running. -/
def runningClients (jobs : List IntelJob) : List Uuid :=
  (jobs.filter fun job => decide (job.status = .running)).map IntelJob.clientId

/-- A list with a member has a first one. -/
theorem firstBy_of_mem {α : Type} (before : α → α → Bool) {items : List α} {a : α}
    (inside : a ∈ items) : ∃ first, firstBy before items = some first := by
  cases items with
  | nil => cases inside
  | cons b rest =>
    simp only [firstBy]
    cases firstBy before rest with
    | none => exact ⟨b, rfl⟩
    | some c =>
      dsimp only
      split <;> exact ⟨_, rfl⟩

/-- While an idle client has a queued job that is due, `claim_next` hands out a job. -/
theorem claimNext_of_mayHandOut {now : Timestamp} {jobs : List IntelJob} {clientId : Uuid}
    (due : MayHandOut now jobs clientId) (idle : clientRunning jobs clientId = false)
    (workerId : String) :
    ∃ claimed, claimNext workerId now (fun _ => runningClients jobs) [] jobs = some claimed := by
  obtain ⟨job, inside, rfl, ready⟩ := due
  have busy_iff (id : Uuid) : id ∈ runningClients jobs ↔ clientRunning jobs id = true := by
    simp only [runningClients, clientRunning, List.mem_map, List.mem_filter, List.any_eq_true,
      Bool.and_eq_true, decide_eq_true_eq]
    constructor
    · rintro ⟨other, ⟨member, running⟩, same⟩
      exact ⟨other, member, same, running⟩
    · rintro ⟨other, member, same, running⟩
      exact ⟨other, ⟨member, running⟩, same⟩
  have selected : job ∈ jobs.filter (isCandidate now (runningClients jobs) [] []) := by
    rw [List.mem_filter]
    refine ⟨inside, ?_⟩
    simp only [isCandidate, List.contains_nil, Bool.not_false, Bool.and_true, Bool.and_eq_true,
      decide_eq_true_eq] at ready
    have outside : job.clientId ∉ runningClients jobs := by
      rw [busy_iff, idle]
      exact Bool.false_ne_true
    simp [isCandidate, ready.1, ready.2, outside]
  obtain ⟨first, isFirst⟩ := firstBy_of_mem claimsBefore selected
  have chosen := (List.mem_filter.mp (mem_of_firstBy isFirst)).2
  simp only [isCandidate, Bool.and_eq_true, Bool.not_eq_true', List.contains_eq_mem,
    decide_eq_false_iff_not] at chosen
  have free : clientRunning jobs first.clientId = false := by
    rw [← Bool.not_eq_true, ← busy_iff]
    exact chosen.1.1.2
  refine ⟨(claim workerId now first, Table.modify IntelJob.id first.id (claim workerId now) jobs),
    ?_⟩
  rw [claimNext, maxClaimAttempts, claimAttempts, candidate, isFirst]
  dsimp only
  rw [free, if_neg Bool.false_ne_true]

/-- An urgent request leaves an idle client a queued job that is due. -/
def Prompt (now : Timestamp) (clientId : Uuid) (debounceSeconds : Int)
    (jobs after : List IntelJob) : Prop :=
  debounceSeconds = 0 → clientRunning jobs clientId = false → MayHandOut now after clientId

/-- A debounced request moves no queued job whose back-off is not over to an earlier time. -/
def Patient (now : Timestamp) (debounceSeconds : Int) (s : Watched) (after : List IntelJob) :
    Prop :=
  debounceSeconds ≠ 0 → ∀ job ∈ s.jobs, job.status = .queued →
    ∀ until', s.backOff job.id = some until' → now < until' →
      ∀ row ∈ after, row.id = job.id → row.runAfter = job.runAfter ∨
        ∃ runAfter, row.runAfter = some runAfter ∧ until' ≤ runAfter

/-- The client has no queued job and the queue is on, or it has a queued job that is due. -/
def NotHeldBack (env : Environment) (now : Timestamp) (clientId : Uuid) (debounceSeconds : Int)
    (jobs : List IntelJob) : Prop :=
  debounceSeconds = 0 → clientRunning jobs clientId = false →
    (env.intelligenceEnabled = true ∧ pendingForClient jobs clientId = none) ∨
      MayHandOut now jobs clientId

/-- The oldest queued job of the client is in no back-off that lasts longer than the debounce, or
has the time of the debounce already. -/
def NotRushed (env : Environment) (now : Timestamp) (clientId : Uuid) (debounceSeconds : Int)
    (s : Watched) : Prop :=
  debounceSeconds ≠ 0 → env.intelligenceEnabled = true →
    ∀ job, pendingForClient s.jobs clientId = some job →
      ∀ until', s.backOff job.id = some until' → now < until' →
        until' ≤ now + debounceSeconds * second ∨
          job.runAfter = some (now + debounceSeconds * second)

/-! ## What a request leaves -/

section Requests

variable {env : Environment} {tick : Tick} {clientId : Uuid} {jobType : IntelJobType}
  {changedKeys : Option (List String)} {debounceSeconds : Int} {jobs : List IntelJob}

/-- A rewrite that keeps the client, the status and the time of every job hands out the same. -/
theorem mayHandOut_map {change : IntelJob → IntelJob} {now : Timestamp}
    (client : ∀ job, (change job).clientId = job.clientId)
    (ready : ∀ job, isCandidate now [] [] [] (change job) = isCandidate now [] [] [] job) :
    MayHandOut now (jobs.map change) clientId ↔ MayHandOut now jobs clientId := by
  unfold MayHandOut
  simp only [List.mem_map, exists_exists_and_eq_and, client, ready]

/-- An urgent request leaves a due job exactly when the client had none queued or a due one. -/
theorem prompt_iff :
    Prompt tick.now clientId debounceSeconds jobs
        (enqueue env tick clientId jobType changedKeys debounceSeconds jobs) ↔
      NotHeldBack env tick.now clientId debounceSeconds jobs := by
  refine forall_congr' fun urgent => forall_congr' fun _ => ?_
  subst urgent
  unfold enqueue
  cases env.intelligenceEnabled with
  | false => simp
  | true =>
    dsimp only
    rw [if_pos rfl, if_pos rfl]
    cases pending : pendingForClient jobs clientId with
    | none =>
      refine ⟨fun _ => .inl ⟨rfl, rfl⟩, fun _ => ?_⟩
      exact ⟨newJob tick clientId jobType changedKeys none, List.mem_append_right _ (by simp), rfl,
        by simp [isCandidate, newJob]⟩
    | some existing =>
      have same : MayHandOut tick.now (Table.modify IntelJob.id existing.id
          (coalesce jobType changedKeys none) jobs) clientId ↔
          MayHandOut tick.now jobs clientId := by
        apply mayHandOut_map
        · intro job
          split <;> rfl
        · intro job
          split <;> rfl
      simpa using same

/-- A debounced request moves no waiting job forward exactly when the job it is absorbed by may
run when the debounce is over. -/
theorem patient_iff {s : Watched} (sound : Sound s.jobs)
    (fresh : ¬Table.has IntelJob.id s.jobs tick.jobId = true) :
    Patient tick.now debounceSeconds s
        (enqueue env tick clientId jobType changedKeys debounceSeconds s.jobs) ↔
      NotRushed env tick.now clientId debounceSeconds s := by
  have only {a b : IntelJob} (first : a ∈ s.jobs) (second : b ∈ s.jobs) (same : a.id = b.id) :
      a = b := List.inj_on_of_nodup_map sound.distinct first second same
  refine forall_congr' fun debounced => ?_
  unfold enqueue
  cases env.intelligenceEnabled with
  | false =>
    refine ⟨fun _ wrong => absurd wrong Bool.false_ne_true, fun _ => ?_⟩
    intro job inside _ _ _ _ row member same
    exact .inl (congrArg IntelJob.runAfter (only member inside same))
  | true =>
    dsimp only
    rw [if_pos rfl, if_neg debounced]
    simp only [forall_const]
    cases pending : pendingForClient s.jobs clientId with
    | none =>
      refine ⟨fun _ _ wrong => (by cases wrong), fun _ => ?_⟩
      intro job inside _ _ _ _ row member same
      obtain old | new := List.mem_append.mp member
      · exact .inl (congrArg IntelJob.runAfter (only old inside same))
      · rw [List.mem_singleton.mp new] at same
        exact absurd (List.any_eq_true.mpr ⟨job, inside, decide_eq_true same.symm⟩) fresh
    | some existing =>
      have selected := List.mem_filter.mp (mem_of_firstBy pending)
      have inside : existing ∈ s.jobs := selected.1
      have queued : existing.status = .queued := by
        have pendingFor := selected.2
        simp only [isPendingFor, Bool.and_eq_true, decide_eq_true_eq] at pendingFor
        exact pendingFor.2
      constructor
      · intro patient job found until' waits early
        obtain rfl := Option.some.inj found
        have moved := patient existing inside queued until' waits early
          (coalesce jobType changedKeys (some (tick.now + debounceSeconds * second)) existing)
          (Table.mem_modify.mpr (.inr ⟨existing, inside, rfl, rfl⟩)) rfl
        obtain kept | ⟨runAfter, isTime, late⟩ := moved
        · exact .inr kept.symm
        · obtain rfl := Option.some.inj isTime
          exact .inl late
      · intro calm job member _ until' waits early row there same
        obtain ⟨old, -⟩ | ⟨old, stored, named, rfl⟩ := Table.mem_modify.mp there
        · exact .inl (congrArg IntelJob.runAfter (only old member same))
        · obtain rfl := only stored inside named
          obtain rfl := only stored member same
          obtain late | already := calm old rfl until' waits early
          · exact .inr ⟨_, rfl, late⟩
          · exact .inl already.symm

end Requests

/-- **Urgent and debounced requests.** In every reachable queue a request leaves an idle client a
due job when it is urgent, and moves no job in a back-off forward when it is debounced, exactly when
no queued job holds it back and the debounce outlasts the back-off. -/
theorem request_timely_iff {env : Environment} {s after : Watched}
    (reached : (watched env).Reachable Machine.anyStep s) {tick : Tick} {clientId : Uuid}
    {jobType : IntelJobType} {changedKeys : Option (List String)} {debounceSeconds : Int}
    (taken : (watched env).next s
      (.enqueue tick clientId jobType changedKeys debounceSeconds) = some after) :
    (Prompt tick.now clientId debounceSeconds s.jobs after.jobs ∧
        Patient tick.now debounceSeconds s after.jobs) ↔
      NotHeldBack env tick.now clientId debounceSeconds s.jobs ∧
        NotRushed env tick.now clientId debounceSeconds s := by
  obtain ⟨jobs, moved, rfl⟩ := Option.map_eq_some_iff.mp taken
  simp only [next, Option.ite_none_left_eq_some, Option.some.injEq] at moved
  obtain ⟨fresh, rfl⟩ := moved
  exact and_congr prompt_iff (patient_iff (watched_sound reached) fresh)

/-- A client's request five seconds from now. -/
def sampleDebounced : Label := .enqueue ⟨0, 0, 200, 0⟩ 2 .incremental (some ["brand"]) 5

/-- Its urgent request at some time. -/
def sampleUrgent (now : Timestamp) : Label :=
  .enqueue ⟨now, 0, 201, 0⟩ 2 .incremental (some ["compliance"]) 0

/-- The queue after the debounced request. -/
def sampleQueue : Watched :=
  ⟨[newJob ⟨0, 0, 200, 0⟩ 2 .incremental (some ["brand"]) (some (5 * second))], fun _ => none⟩

/-- The sample queue is reachable. -/
theorem sampleQueue_reached :
    (watched ⟨true, []⟩).Reachable Machine.anyStep sampleQueue := by
  have run : (watched ⟨true, []⟩).Run Machine.anyStep ⟨[], fun _ => none⟩ [sampleDebounced]
      sampleQueue := .cons trivial rfl (.nil _)
  exact ⟨_, _, ⟨rfl, fun _ => rfl⟩, run⟩

/-- An urgent request once the debounced job is overdue is served at once. -/
theorem overdue_job_serves :
    ∃ after, (watched ⟨true, []⟩).next sampleQueue (sampleUrgent (10 * second)) = some after ∧
      Prompt (10 * second) 2 0 sampleQueue.jobs after.jobs ∧
      Patient (10 * second) 0 sampleQueue after.jobs := by
  have taken : (watched ⟨true, []⟩).next sampleQueue (sampleUrgent (10 * second)) =
      some ⟨enqueue ⟨true, []⟩ ⟨10 * second, 0, 201, 0⟩ 2 .incremental (some ["compliance"]) 0
        sampleQueue.jobs, fun _ => none⟩ := rfl
  refine ⟨_, taken, (request_timely_iff sampleQueue_reached taken).mpr ⟨fun _ _ => .inr ?_, ?_⟩⟩
  · exact ⟨_, List.mem_cons_self, rfl, by decide⟩
  · exact fun debounced => absurd rfl debounced

/-- An urgent request right after a debounced one leaves no job that can be claimed. -/
theorem urgent_waits_for_debounce :
    ∃ after, (watched ⟨true, []⟩).Reachable Machine.anyStep sampleQueue ∧
      (watched ⟨true, []⟩).next sampleQueue (sampleUrgent 0) = some after ∧
      clientRunning sampleQueue.jobs 2 = false ∧ ¬MayHandOut 0 after.jobs 2 := by
  have taken : (watched ⟨true, []⟩).next sampleQueue (sampleUrgent 0) =
      some ⟨enqueue ⟨true, []⟩ ⟨0, 0, 201, 0⟩ 2 .incremental (some ["compliance"]) 0
        sampleQueue.jobs, fun _ => none⟩ := rfl
  refine ⟨_, sampleQueue_reached, taken, by decide, ?_⟩
  rintro ⟨job, inside, -, ready⟩
  obtain rfl := List.mem_singleton.mp inside
  exact absurd ready (by decide)

end MarketingOS.JobQueue
