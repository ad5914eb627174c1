import Mathlib.Data.List.Nodup
import MarketingOS.Base.Machine
import MarketingOS.Services.JobQueue

/-! # Safety of the job queue

The operations of the queue as one machine, with workers that call back at any time, on any job,
however often it was reclaimed since. Every operation but a claim rewrites rows one by one and
starts no job, so the invariants are said of such rewrites once. -/
namespace MarketingOS.JobQueue

/-! ## The machine -/

/-- One operation of the queue. -/
inductive Label where
  | enqueue (tick : Tick) (clientId : Uuid) (jobType : IntelJobType)
      (changedKeys : Option (List String)) (debounceSeconds : Int)
  | reclaimStale (now : Timestamp)
  /-- `claim_next` after its sweep. `busy` is what the candidate queries saw of running clients,
  `locked` the rows other transactions hold. -/
  | claimNext (workerId : String) (now : Timestamp) (busy : Nat → List Uuid) (locked : List Uuid)
  | succeed (jobId : Uuid)
  | fail (jobId : Uuid) (now : Timestamp) (error : String)

/-- The rows after one operation. An insert under an identifier that is taken is refused, and a
worker that finds no job leaves the rows alone. -/
def next (env : Environment) (jobs : List IntelJob) : Label → Option (List IntelJob)
  | .enqueue tick clientId jobType changedKeys debounceSeconds =>
    if Table.has IntelJob.id jobs tick.jobId then none
    else some (enqueue env tick clientId jobType changedKeys debounceSeconds jobs)
  | .reclaimStale now => some (reclaimStale now jobs)
  | .claimNext workerId now busy locked =>
    match claimNext workerId now busy locked jobs with
    | none => some jobs
    | some (_, after) => some after
  | .succeed jobId => some (Table.modify IntelJob.id jobId succeed jobs)
  | .fail jobId now error => some (Table.modify IntelJob.id jobId (fail now error) jobs)

/-- The machine of the queue, from an empty queue. -/
def machine (env : Environment) : Machine (List IntelJob) Label where
  start jobs := jobs = []
  next := next env

/-! ## Rows -/

/-- The attempts of a job stay within its bound, strictly while it is queued, and it is dead only
at the bound. -/
def Bounded (job : IntelJob) : Prop :=
  job.attempts ≤ job.maxAttempts ∧ (job.status = .queued → job.attempts < job.maxAttempts) ∧
    (job.status = .dead → job.attempts = job.maxAttempts)

/-- A rewrite of one job that keeps its keys, its attempts and its bound and does not start
it. -/
structure Quiet (change : IntelJob → IntelJob) : Prop where
  id : ∀ job, (change job).id = job.id
  clientId : ∀ job, (change job).clientId = job.clientId
  attempts : ∀ job, (change job).attempts = job.attempts
  running : ∀ job, (change job).status = .running → job.status = .running
  bounded : ∀ job, Bounded job → Bounded (change job)

/-- Coalescing into a job is quiet. -/
theorem coalesce_quiet (jobType : IntelJobType) (changedKeys : Option (List String))
    (runAfter : Option Timestamp) : Quiet (coalesce jobType changedKeys runAfter) :=
  ⟨fun _ => rfl, fun _ => rfl, fun _ => rfl, fun _ running => running, fun _ bounded => bounded⟩

/-- A job that goes on to be dead at its bound, and queued again below it, stays bounded. -/
theorem bounded_retry {job after : IntelJob} (bounded : Bounded job)
    (status : after.status = if job.maxAttempts ≤ job.attempts then .dead else .queued)
    (attempts : after.attempts = job.attempts) (limit : after.maxAttempts = job.maxAttempts) :
    Bounded after := by
  unfold Bounded
  rw [attempts, limit, status]
  by_cases spent : job.maxAttempts ≤ job.attempts
  · simp only [spent, ↓reduceIte, reduceCtorEq, false_implies, true_and, forall_const]
    exact ⟨bounded.1, Nat.le_antisymm bounded.1 spent⟩
  · simp only [spent, ↓reduceIte, reduceCtorEq, false_implies, and_true, forall_const]
    exact ⟨bounded.1, Nat.lt_of_not_le spent⟩

/-- Failing a job is quiet. -/
theorem fail_quiet (now : Timestamp) (error : String) : Quiet (fail now error) where
  id _ := rfl
  clientId _ := rfl
  attempts _ := rfl
  running job running := by
    simp only [fail] at running
    split at running <;> cases running
  bounded job bounded := by
    refine bounded_retry bounded ?_ rfl rfl
    simp only [fail, decide_eq_true_eq]

/-- Reclaiming a job is quiet. -/
theorem reclaim_quiet (now : Timestamp) : Quiet (reclaim now) where
  id _ := rfl
  clientId _ := rfl
  attempts _ := rfl
  running job running := by
    simp only [reclaim] at running
    split at running <;> cases running
  bounded job bounded := by
    refine bounded_retry bounded ?_ rfl rfl
    simp only [reclaim, decide_eq_true_eq]

/-- Succeeding is quiet. -/
theorem succeed_quiet : Quiet succeed where
  id _ := rfl
  clientId _ := rfl
  attempts _ := rfl
  running job running := by cases running
  bounded job bounded :=
    ⟨bounded.1, by simp [succeed], by simp [succeed]⟩

/-- A rewrite of some jobs is quiet when each of its branches is. -/
theorem Quiet.ite {change : IntelJob → IntelJob} (quiet : Quiet change) (chosen : IntelJob → Prop)
    [DecidablePred chosen] : Quiet fun job => if chosen job then change job else job where
  id job := by split <;> simp [quiet.id]
  clientId job := by split <;> simp [quiet.clientId]
  attempts job := by split <;> simp [quiet.attempts]
  running job running := by
    split at running
    · exact quiet.running job running
    · exact running
  bounded job bounded := by
    split
    · exact quiet.bounded job bounded
    · exact bounded

/-! ## The invariant -/

/-- The rows of a sound queue: distinct, one running job for each client at most, and every job
within its bound. -/
structure Sound (jobs : List IntelJob) : Prop where
  distinct : (jobs.map IntelJob.id).Nodup
  exclusive : ∀ a ∈ jobs, ∀ b ∈ jobs, a.clientId = b.clientId → a.status = .running →
    b.status = .running → a = b
  bounded : ∀ job ∈ jobs, Bounded job

/-- A quiet rewrite keeps a queue sound. -/
theorem Sound.map {jobs : List IntelJob} {change : IntelJob → IntelJob} (sound : Sound jobs)
    (quiet : Quiet change) : Sound (jobs.map change) := by
  constructor
  · have same : (IntelJob.id ∘ change) = IntelJob.id := funext quiet.id
    rw [List.map_map, same]
    exact sound.distinct
  · simp only [List.mem_map]
    rintro _ ⟨a, first, rfl⟩ _ ⟨b, second, rfl⟩ client running also
    rw [quiet.clientId, quiet.clientId] at client
    rw [sound.exclusive a first b second client (quiet.running a running) (quiet.running b also)]
  · simp only [List.mem_map]
    rintro _ ⟨job, inside, rfl⟩
    exact quiet.bounded job (sound.bounded job inside)

/-- A quiet rewrite of the job under one identifier keeps a queue sound. -/
theorem Sound.modify {jobs : List IntelJob} {change : IntelJob → IntelJob} (sound : Sound jobs)
    (quiet : Quiet change) (jobId : Uuid) : Sound (Table.modify IntelJob.id jobId change jobs) :=
  sound.map (quiet.ite fun job => job.id = jobId)

/-- A new queued job under a fresh identifier keeps a queue sound. -/
theorem Sound.append {jobs : List IntelJob} {job : IntelJob} (sound : Sound jobs)
    (fresh : Table.has IntelJob.id jobs job.id = false) (queued : job.status = .queued)
    (bounded : Bounded job) : Sound (jobs ++ [job]) := by
  have idle : job.status ≠ .running := by simp [queued]
  constructor
  · simp only [Table.has, List.any_eq_false, decide_eq_true_eq] at fresh
    rw [List.map_append, List.nodup_append]
    refine ⟨sound.distinct, by simp, ?_⟩
    intro _ earlier _ last same
    obtain ⟨old, inside, rfl⟩ := List.mem_map.mp earlier
    simp only [List.map_cons, List.map_nil, List.mem_singleton] at last
    exact fresh old inside (same.trans last)
  · simp only [List.mem_append, List.mem_singleton]
    rintro a (first | rfl) b (second | rfl) client running also
    · exact sound.exclusive a first b second client running also
    · exact absurd also idle
    · exact absurd running idle
    · rfl
  · simp only [List.mem_append, List.mem_singleton]
    rintro a (inside | rfl)
    · exact sound.bounded a inside
    · exact bounded

/-- No running job of the client keeps others out. -/
theorem idle_of_clientRunning {jobs : List IntelJob} {clientId : Uuid}
    (free : clientRunning jobs clientId = false) (job : IntelJob) (inside : job ∈ jobs)
    (client : job.clientId = clientId) : job.status ≠ .running := by
  simp only [clientRunning, List.any_eq_false, Bool.and_eq_true, decide_eq_true_eq,
    not_and] at free
  exact free job inside client

/-- What a claim returns: a queued job that is due, of a client without a running job, claimed in
place. -/
theorem claimAttempts_some {workerId : String} {now : Timestamp} {busy : Nat → List Uuid}
    {locked excluded : List Uuid} {jobs after : List IntelJob} {attempts : Nat} {claimed : IntelJob}
    (returned : claimAttempts workerId now busy locked jobs attempts excluded =
      some (claimed, after)) :
    ∃ job ∈ jobs, claimed = claim workerId now job ∧ job.status = .queued ∧
      (∀ runAfter, job.runAfter = some runAfter → runAfter ≤ now) ∧
      clientRunning jobs job.clientId = false ∧ job.id ∉ locked ∧
      after = Table.modify IntelJob.id job.id (claim workerId now) jobs := by
  induction attempts generalizing excluded with
  | zero => cases returned
  | succ attempts ih =>
    simp only [claimAttempts] at returned
    split at returned
    · cases returned
    · next job found =>
      by_cases running : clientRunning jobs job.clientId = true
      · rw [if_pos running] at returned
        exact ih returned
      · rw [if_neg running] at returned
        simp only [Option.some.injEq, Prod.mk.injEq] at returned
        obtain ⟨rfl, rfl⟩ := returned
        obtain ⟨inside, selected⟩ := List.mem_filter.mp (mem_of_firstBy found)
        simp only [isCandidate, Bool.and_eq_true, decide_eq_true_eq, Bool.not_eq_true',
          List.contains_eq_mem, decide_eq_false_iff_not] at selected
        obtain ⟨⟨⟨⟨queued, due⟩, -⟩, -⟩, unlocked⟩ := selected
        refine ⟨job, inside, rfl, queued, ?_, (Bool.not_eq_true _).mp running, unlocked, rfl⟩
        intro runAfter there
        rw [there, Option.all_some, decide_eq_true_eq] at due
        exact due

/-- A claim of a queued job of a client without a running job keeps a queue sound. -/
theorem Sound.claim {jobs : List IntelJob} {job : IntelJob} (sound : Sound jobs)
    (inside : job ∈ jobs) (queued : job.status = .queued)
    (free : clientRunning jobs job.clientId = false) (workerId : String) (now : Timestamp) :
    Sound (Table.modify IntelJob.id job.id (claim workerId now) jobs) := by
  have only : ∀ old ∈ jobs, old.id = job.id → old = job := fun old member same =>
    List.inj_on_of_nodup_map sound.distinct member inside same
  constructor
  · rw [Table.map_modify (JobQueue.claim workerId now) IntelJob.id fun _ _ => rfl]
    exact sound.distinct
  · intro a first b second client running also
    obtain ⟨kept, -⟩ | ⟨old, member, same, rfl⟩ := Table.mem_modify.mp first <;>
      obtain ⟨kept', -⟩ | ⟨old', member', same', rfl⟩ := Table.mem_modify.mp second
    · exact sound.exclusive a kept b kept' client running also
    · obtain rfl := only old' member' same'
      exact absurd running (idle_of_clientRunning free a kept client)
    · obtain rfl := only old member same
      exact absurd also (idle_of_clientRunning free b kept' client.symm)
    · rw [only old member same, only old' member' same']
  · intro a member
    obtain ⟨kept, -⟩ | ⟨old, kept, same, rfl⟩ := Table.mem_modify.mp member
    · exact sound.bounded a kept
    · obtain rfl := only old kept same
      obtain ⟨-, below, -⟩ := sound.bounded old inside
      exact ⟨below queued, by simp [JobQueue.claim], by simp [JobQueue.claim]⟩

/-- A new job is bounded. -/
theorem newJob_bounded (tick : Tick) (clientId : Uuid) (jobType : IntelJobType)
    (changedKeys : Option (List String)) (runAfter : Option Timestamp) :
    Bounded (newJob tick clientId jobType changedKeys runAfter) := by
  simp [Bounded, newJob]

/-- Every operation keeps a queue sound. -/
theorem next_sound {env : Environment} {jobs after : List IntelJob} {label : Label}
    (sound : Sound jobs) (taken : next env jobs label = some after) : Sound after := by
  cases label with
  | enqueue tick clientId jobType changedKeys debounceSeconds =>
    simp only [next] at taken
    split at taken
    · cases taken
    · next fresh =>
      obtain rfl := Option.some.inj taken
      unfold enqueue
      split
      · dsimp only
        split
        · exact sound.modify (coalesce_quiet _ _ _) _
        · exact sound.append ((Bool.not_eq_true _).mp fresh) rfl (newJob_bounded _ _ _ _ _)
      · exact sound
  | reclaimStale now =>
    obtain rfl := Option.some.inj taken
    exact sound.map ((reclaim_quiet now).ite fun job => isStale now job = true)
  | claimNext workerId now busy locked =>
    simp only [next] at taken
    split at taken
    · exact Option.some.inj taken ▸ sound
    · next claimed rows returned =>
      obtain rfl := Option.some.inj taken
      obtain ⟨job, inside, -, queued, -, free, -, rfl⟩ := claimAttempts_some returned
      exact sound.claim inside queued free workerId now
  | succeed jobId =>
    obtain rfl := Option.some.inj taken
    exact sound.modify succeed_quiet jobId
  | fail jobId now error =>
    obtain rfl := Option.some.inj taken
    exact sound.modify (fail_quiet now error) jobId

/-- Every reachable queue is sound. -/
theorem sound_of_reachable {env : Environment} {jobs : List IntelJob}
    (reached : (machine env).Reachable Machine.anyStep jobs) : Sound jobs := by
  apply reached.invariant
  · rintro _ rfl
    exact ⟨List.nodup_nil, by simp, by simp⟩
  · intro jobs label after sound _ taken
    exact next_sound sound taken

/-! ## Jobs over time -/

/-- Every job goes on under its identifier, with no fewer attempts. -/
def Continues (before after : List IntelJob) : Prop :=
  ∀ job ∈ before, ∃ later ∈ after, later.id = job.id ∧ later.clientId = job.clientId ∧
    job.attempts ≤ later.attempts

/-- Rows that are left alone go on. -/
theorem continues_refl (jobs : List IntelJob) : Continues jobs jobs :=
  fun job inside => ⟨job, inside, rfl, rfl, Nat.le_refl _⟩

/-- Jobs go on through a quiet rewrite. -/
theorem Quiet.continues {change : IntelJob → IntelJob} (quiet : Quiet change)
    (jobs : List IntelJob) : Continues jobs (jobs.map change) :=
  fun job inside => ⟨change job, List.mem_map_of_mem inside, quiet.id job, quiet.clientId job,
    Nat.le_of_eq (quiet.attempts job).symm⟩

/-- Jobs go on through a quiet rewrite of the job under one identifier. -/
theorem Quiet.continues_modify {change : IntelJob → IntelJob} (quiet : Quiet change)
    (jobId : Uuid) (jobs : List IntelJob) :
    Continues jobs (Table.modify IntelJob.id jobId change jobs) :=
  (quiet.ite fun job => job.id = jobId).continues jobs

/-- Jobs go on when others are added. -/
theorem continues_append (jobs more : List IntelJob) : Continues jobs (jobs ++ more) :=
  fun job inside => ⟨job, List.mem_append_left more inside, rfl, rfl, Nat.le_refl _⟩

/-- Jobs go on through a claim. -/
theorem continues_claim (worker : String) (now : Timestamp) (jobId : Uuid)
    (jobs : List IntelJob) :
    Continues jobs (Table.modify IntelJob.id jobId (claim worker now) jobs) := by
  intro job inside
  by_cases same : job.id = jobId
  · exact ⟨claim worker now job, Table.mem_modify.mpr (.inr ⟨job, inside, same, rfl⟩), rfl, rfl,
      Nat.le_succ _⟩
  · exact ⟨job, Table.mem_modify.mpr (.inl ⟨inside, same⟩), rfl, rfl, Nat.le_refl _⟩

/-! ## Safety -/

/-- A list without duplicates all of whose members are one has one member at most. -/
theorem length_le_one {α : Type} {items : List α} (distinct : items.Nodup)
    (same : ∀ a ∈ items, ∀ b ∈ items, a = b) : items.length ≤ 1 := by
  cases items with
  | nil => exact Nat.zero_le 1
  | cons a rest =>
    cases rest with
    | nil => exact Nat.le_refl 1
    | cons b rest =>
      rw [same a (by simp) b (by simp)] at distinct
      simp at distinct

/-- In every reachable queue, whatever the order of the operations and however late the callbacks
of the workers: a client has one running job at most, the attempts of every job are within its
bound, strictly while it is queued, a dead job has used them all, and a claim only returns a job
that is due, of a client that had no running job. -/
theorem queue_safe (env : Environment) (jobs : List IntelJob)
    (reached : (machine env).Reachable Machine.anyStep jobs) :
    (∀ clientId, (jobs.filter fun job =>
        decide (job.clientId = clientId) && decide (job.status = .running)).length ≤ 1) ∧
    (∀ job ∈ jobs, job.attempts ≤ job.maxAttempts) ∧
    (∀ job ∈ jobs, job.status = .queued → job.attempts < job.maxAttempts) ∧
    (∀ job ∈ jobs, job.status = .dead → job.attempts = job.maxAttempts) ∧
    ∀ workerId now busy locked job after,
      claimNext workerId now busy locked jobs = some (job, after) →
      (∀ runAfter, job.runAfter = some runAfter → runAfter ≤ now) ∧
        clientRunning jobs job.clientId = false := by
  have sound := sound_of_reachable reached
  refine ⟨fun clientId => ?_, fun job inside => (sound.bounded job inside).1,
    fun job inside => (sound.bounded job inside).2.1,
    fun job inside => (sound.bounded job inside).2.2, ?_⟩
  · have distinct : (jobs.filter fun job =>
        decide (job.clientId = clientId) && decide (job.status = .running)).Nodup :=
      (List.Nodup.of_map _ sound.distinct).filter _
    refine length_le_one distinct fun a first b second => ?_
    simp only [List.mem_filter, Bool.and_eq_true, decide_eq_true_eq] at first second
    obtain ⟨inside, client, running⟩ := first
    obtain ⟨inside', client', running'⟩ := second
    exact sound.exclusive a inside b inside' (client.trans client'.symm) running running'
  · intro workerId now busy locked job after returned
    obtain ⟨source, inside, rfl, -, due, free, -, -⟩ := claimAttempts_some returned
    exact ⟨due, free⟩

/-- A job that is claimed, reclaimed from its slow worker, claimed again, and then failed by the
first worker. -/
def sampleLateFailure : List Label :=
  [.enqueue ⟨0, 100, 200, 300⟩ 2 .fullBuild none 0, .claimNext "one" 10 (fun _ => []) [],
    .reclaimStale (10 + 1801 * second), .claimNext "two" (10 + 1802 * second) (fun _ => []) [],
    .fail 200 (10 + 1803 * second) "late"]

/-- The late failure queues the job again, with two of its three attempts used. -/
theorem late_failure_stays_bounded :
    ∃ jobs, (machine ⟨true, []⟩).play Machine.anyStep [] sampleLateFailure = some jobs ∧
      jobs.map (fun job => (job.status, job.attempts)) = [(.queued, 2)] ∧
      ∀ job ∈ jobs, job.attempts ≤ job.maxAttempts := by
  have played : ((machine ⟨true, []⟩).play Machine.anyStep [] sampleLateFailure).map
      (fun jobs => jobs.map fun job => (job.status, job.attempts)) = some [(.queued, 2)] := by
    decide
  obtain ⟨jobs, run, shown⟩ := Option.map_eq_some_iff.mp played
  exact ⟨jobs, run, shown,
    (queue_safe ⟨true, []⟩ jobs ⟨[], _, rfl, Machine.run_of_play run⟩).2.1⟩

end MarketingOS.JobQueue
