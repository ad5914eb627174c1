import MarketingOS.Verif.BuildOwnership

/-! # No committed change loses its build

A change is followed through the job its request left for it: until a build that read the data
after the change has succeeded, that job is queued, or running for a build that has not read too
early, or dead. A request that commits after its job was read past, or a worker that finishes a
job it lost, breaks the chain, and nothing else does. -/
namespace MarketingOS.BuildPipeline

open JobQueue

variable {env : Environment}

/-! ## Statement -/

/-- The build has read the data, and the change was in it. -/
def Build.saw (change : DataChange) (build : Build) : Bool :=
  build.read.any fun seen => decide (change.version ≤ seen)

/-- The build has read the data, and the change was not in it yet. -/
def Build.missed (change : DataChange) (build : Build) : Bool :=
  build.read.any fun seen => decide (seen < change.version)

/-- A job is queued, or running with the read of its build still to come when the change was
committed. -/
def AwaitsRead (p : Pipeline) (change : DataChange) (job : IntelJob) : Prop :=
  job.status = .queued ∨
    job.status = .running ∧ ∀ build ∈ p.builds, Holds build job → build.missed change = false

/-- A change has a job of its client, until a build that saw it has succeeded or its job is
dead. -/
def Attended (p : Pipeline) (change : DataChange) : Prop :=
  (∃ job ∈ p.jobs, job.clientId = change.clientId ∧ AwaitsRead p change job) ∨
  (∃ build ∈ p.completed, build.clientId = change.clientId ∧ build.saw change = true) ∨
  ∃ job ∈ p.jobs, job.id = change.jobId ∧ job.status = .dead

instance (p : Pipeline) (change : DataChange) (job : IntelJob) :
    Decidable (AwaitsRead p change job) := by
  unfold AwaitsRead
  infer_instance

instance (p : Pipeline) (change : DataChange) : Decidable (Attended p change) := by
  unfold Attended
  infer_instance

/-- A request that coalesces commits before its job is read past: the job is still queued, or
dead, or running with nothing read yet. And a worker only finishes a job it still holds. -/
def NothingTooLate : Machine.Guard Pipeline Label
  | p, .commit r _ =>
    ∀ existing ∈ p.requests[r]?.bind Request.existing, ∀ job ∈ p.jobs, job.id = existing.id →
      job.status = .queued ∨ job.status = .dead ∨
        job.status = .running ∧ ∀ build ∈ p.builds, Holds build job → build.read = none
  | p, .succeed worker =>
    ∃ build ∈ p.builds, build.worker = worker ∧ ∃ job ∈ p.jobs, Holds build job
  | _, _ => True

instance (p : Pipeline) (label : Label) : Decidable (NothingTooLate p label) :=
  match label with
  | .commit r _ => inferInstanceAs (Decidable (∀ existing ∈ p.requests[r]?.bind Request.existing,
      ∀ job ∈ p.jobs, job.id = existing.id → job.status = .queued ∨ job.status = .dead ∨
        job.status = .running ∧ ∀ build ∈ p.builds, Holds build job → build.read = none))
  | .succeed worker => inferInstanceAs (Decidable (∃ build ∈ p.builds, build.worker = worker ∧
      ∃ job ∈ p.jobs, Holds build job))
  | .enqueue .. | .rollBack _ | .reclaimStale _ | .claimNext .. | .readClient _ | .fail ..
  | .crash _ => .isTrue trivial

/-! ## Following one change -/

/-- A build that saw the change has succeeded, or the job of the change is dead or awaits a
read. -/
def Followed (p : Pipeline) (change : DataChange) : Prop :=
  (∃ build ∈ p.completed, build.clientId = change.clientId ∧ build.saw change = true) ∨
  ∃ job ∈ p.jobs, job.id = change.jobId ∧ job.clientId = change.clientId ∧
    (job.status = .dead ∨ AwaitsRead p change job)

/-- A change that is followed is attended. -/
theorem Followed.attended {p : Pipeline} {change : DataChange} (followed : Followed p change) :
    Attended p change := by
  obtain built | ⟨job, inside, id, client, dead | awaits⟩ := followed
  · exact .inr (.inl built)
  · exact .inr (.inr ⟨job, inside, id, dead⟩)
  · exact .inl ⟨job, inside, client, awaits⟩

/-- A build that has read either saw the change or missed it. -/
theorem saw_of_not_missed {build : Build} {change : DataChange} {seen : Nat}
    (read : build.read = some seen) (not : build.missed change = false) :
    build.saw change = true := by
  simp only [Build.missed, read, Option.any_some, decide_eq_false_iff_not, Nat.not_lt] at not
  simp [Build.saw, read, not]

/-- A build that has read nothing has missed nothing. -/
theorem not_missed_of_unread {build : Build} (change : DataChange) (unread : build.read = none) :
    build.missed change = false := by
  simp [Build.missed, unread]

/-- A row on the same claim as before. -/
structure SameClaim (job later : IntelJob) : Prop where
  id : later.id = job.id
  clientId : later.clientId = job.clientId
  status : later.status = job.status
  lockedBy : later.lockedBy = job.lockedBy
  attempts : later.attempts = job.attempts

/-- A row is on its own claim. -/
theorem SameClaim.refl (job : IntelJob) : SameClaim job job := ⟨rfl, rfl, rfl, rfl, rfl⟩

/-- Who holds a row holds it as long as it is on the same claim. -/
theorem SameClaim.holds {job later : IntelJob} (same : SameClaim job later) {build : Build} :
    Holds build later ↔ Holds build job := by
  simp only [Holds, same.id, same.status, same.lockedBy, same.attempts]

/-- A change is still followed when its job stays on its claim and no build holds that job and
misses the change that did not before. -/
theorem Followed.keep {p p' : Pipeline} {change : DataChange} (followed : Followed p change)
    (completed : p.completed ⊆ p'.completed)
    (missed : ∀ build ∈ p'.builds, build.missed change = true →
      ∀ job ∈ p.jobs, job.clientId = change.clientId → Holds build job →
      ∃ old ∈ p.builds, old.missed change = true ∧ Holds old job)
    (moves : ∀ job ∈ p.jobs, job.id = change.jobId → job.clientId = change.clientId →
      (job.status = .dead ∨ AwaitsRead p change job) →
      Followed p' change ∨ ∃ later ∈ p'.jobs, SameClaim job later) : Followed p' change := by
  obtain ⟨build, inside, built⟩ | ⟨job, inside, id, client, known⟩ := followed
  · exact .inl ⟨build, completed inside, built⟩
  · obtain done | ⟨later, member, same⟩ := moves job inside id client known
    · exact done
    · refine .inr ⟨later, member, same.id.trans id, same.clientId.trans client, ?_⟩
      obtain dead | queued | ⟨running, unmissed⟩ := known
      · exact .inl (same.status.trans dead)
      · exact .inr (.inl (same.status.trans queued))
      · refine .inr (.inr ⟨same.status.trans running, fun build there holds => ?_⟩)
        by_contra late
        rw [Bool.not_eq_false] at late
        obtain ⟨old, before, also, holder⟩ :=
          missed build there late job inside client (same.holds.mp holds)
        exact Bool.false_ne_true ((unmissed old before holder).symm.trans also)

/-- A change whose job is dead or queued is followed. -/
theorem followed_of_waiting {p : Pipeline} {change : DataChange} {job : IntelJob}
    (inside : job ∈ p.jobs) (id : job.id = change.jobId) (client : job.clientId = change.clientId)
    (waiting : job.status = .dead ∨ job.status = .queued) : Followed p change :=
  .inr ⟨job, inside, id, client, waiting.imp_right .inl⟩

/-- A reclaimed job is dead or queued. -/
theorem reclaim_waiting (now : Timestamp) (job : IntelJob) :
    (reclaim now job).status = .dead ∨ (reclaim now job).status = .queued := by
  unfold reclaim
  dsimp only
  split <;> simp

/-- A failed job is dead or queued. -/
theorem fail_waiting (now : Timestamp) (error : String) (job : IntelJob) :
    (fail now error job).status = .dead ∨ (fail now error job).status = .queued := by
  unfold fail
  dsimp only
  split <;> simp

/-! ## Steps -/

variable {p : Pipeline} {change : DataChange}

/-- Writing a coalesced job back leaves every row on its claim. -/
theorem writeBack_same (read assigned job : IntelJob) :
    SameClaim job (writeBack read assigned job) := ⟨rfl, rfl, rfl, rfl, rfl⟩

/-- A change is followed through a commit that coalesces. -/
theorem followed_coalesced {r : Nat} {clientId jobId : Uuid} {read assigned : IntelJob}
    {changes : List DataChange} (followed : Followed p change) :
    Followed (p.close r clientId
      (Table.modify IntelJob.id jobId (writeBack read assigned) p.jobs) changes) change := by
  refine followed.keep (List.Subset.refl _)
    (fun build inside late job _ _ holds => ⟨build, inside, late, holds⟩) ?_
  intro job inside _ _ _
  by_cases same : job.id = jobId
  · exact .inr ⟨_, Table.mem_modify.mpr (.inr ⟨job, inside, same, rfl⟩), writeBack_same _ _ _⟩
  · exact .inr ⟨job, Table.mem_modify.mpr (.inl ⟨inside, same⟩), .refl job⟩

/-- The change a request commits in time is followed through the job it coalesced into. -/
theorem followed_new {r : Nat} {clientId : Uuid} {version : Nat} {read assigned job : IntelJob}
    {changes : List DataChange} (inside : job ∈ p.jobs) (id : job.id = read.id)
    (client : job.clientId = clientId)
    (intact : job.status = .queued ∨ job.status = .dead ∨
      job.status = .running ∧ ∀ build ∈ p.builds, Holds build job → build.read = none) :
    Followed (p.close r clientId
      (Table.modify IntelJob.id read.id (writeBack read assigned) p.jobs) changes)
      ⟨clientId, version, read.id⟩ := by
  have member := Table.mem_modify.mpr
    (Or.inr (a := writeBack read assigned job ∈ p.jobs ∧ _) ⟨job, inside, id, rfl⟩)
  obtain queued | dead | ⟨running, unread⟩ := intact
  · exact followed_of_waiting member id client (.inr queued)
  · exact followed_of_waiting member id client (.inl dead)
  · refine .inr ⟨_, member, id, client, .inr (.inr ⟨running, fun build there holds => ?_⟩)⟩
    exact not_missed_of_unread _ (unread build there ((writeBack_same _ _ _).holds.mp holds))

/-- A change is followed through a sweep. -/
theorem followed_swept (now : Timestamp) (followed : Followed p change) :
    Followed { p with jobs := reclaimStale now p.jobs } change := by
  refine followed.keep (List.Subset.refl _)
    (fun build inside late job _ _ holds => ⟨build, inside, late, holds⟩) ?_
  intro job inside id client _
  have member : (if isStale now job then reclaim now job else job) ∈ reclaimStale now p.jobs :=
    List.mem_map_of_mem inside
  split at member
  · exact .inl (followed_of_waiting member id client (reclaim_waiting now job))
  · exact .inr ⟨job, member, .refl job⟩

/-- A change is followed through a claim: the build of its own job has read nothing yet, and no
earlier build holds the new claim. -/
theorem followed_claimed (tracked : Tracked p) {worker : String} {now : Timestamp} {job : IntelJob}
    (inside : job ∈ p.jobs) (followed : Followed p change) :
    Followed
      { p with
        jobs := Table.modify IntelJob.id job.id (claim worker now) p.jobs
        builds := p.builds ++ [⟨worker, job.id, job.clientId, job.attempts + 1, none⟩] }
      change := by
  have earlier : ∀ build ∈ p.builds ++ [⟨worker, job.id, job.clientId, job.attempts + 1, none⟩],
      build.missed change = true → build ∈ p.builds := by
    intro build member late
    obtain old | new := List.mem_append.mp member
    · exact old
    · obtain rfl := List.mem_singleton.mp new
      cases late
  refine followed.keep (List.Subset.refl _)
    (fun build member late job _ _ holds => ⟨build, earlier build member late, late, holds⟩) ?_
  intro own there id client _
  by_cases same : own.id = job.id
  · obtain rfl := tracked.only there inside same
    refine .inl (.inr ⟨claim worker now own, Table.mem_modify.mpr (.inr ⟨own, there, rfl, rfl⟩), id,
      client, .inr (.inr ⟨rfl, fun build member holds => ?_⟩)⟩)
    by_contra late
    rw [Bool.not_eq_false] at late
    have old := earlier build member late
    have bound := (tracked.named old there holds.1).2
    have attempt : own.attempts + 1 = build.attempt := holds.2.2.2
    omega
  · exact .inr ⟨own, Table.mem_modify.mpr (.inl ⟨there, same⟩), .refl own⟩

/-- A change is followed through a read: the build of its job reads the data with the change in
it. -/
theorem followed_read (tracked : Tracked p) (inside : change ∈ p.changes) (worker : String)
    (followed : Followed p change) :
    Followed
      { p with
        builds := Table.modify Build.worker worker
          (fun build => { build with read := some (p.versions build.clientId) }) p.builds }
      change := by
  refine followed.keep (List.Subset.refl _) ?_ fun job there _ _ _ => .inr ⟨job, there, .refl job⟩
  intro build member late job there client holds
  obtain ⟨kept, -⟩ | ⟨old, kept, -, rfl⟩ := Table.mem_modify.mp member
  · exact ⟨build, kept, late, holds⟩
  · have own := (tracked.named kept there holds.1).1.symm.trans client
    have known := tracked.versions change inside
    simp only [Build.missed, Option.any_some, decide_eq_true_eq, own] at late
    omega

/-- A change is followed through a callback that leaves its job dead or queued. -/
theorem followed_failed (worker : String) (jobId : Uuid) (now : Timestamp) (error : String)
    (followed : Followed p change) :
    Followed (p.leave worker (Table.modify IntelJob.id jobId (fail now error) p.jobs)) change := by
  refine followed.keep (List.Subset.refl _)
    (fun build inside late job _ _ holds => ⟨build, (List.mem_filter.mp inside).1, late, holds⟩) ?_
  intro job inside id client _
  by_cases same : job.id = jobId
  · exact .inl (followed_of_waiting (Table.mem_modify.mpr (.inr ⟨job, inside, same, rfl⟩)) id client
      (fail_waiting now error job))
  · exact .inr ⟨job, Table.mem_modify.mpr (.inl ⟨inside, same⟩), .refl job⟩

/-- A change is followed through the success of a build that holds its job: if that is the job of
the change, the build saw it. -/
theorem followed_succeeded (tracked : Tracked p) {build : Build} {seen : Nat} {held : IntelJob}
    (inside : build ∈ p.builds) (read : build.read = some seen) (member : held ∈ p.jobs)
    (holds : Holds build held) (followed : Followed p change) :
    Followed
      { p.leave build.worker (Table.modify IntelJob.id build.jobId succeed p.jobs) with
        completed := build :: p.completed } change := by
  refine followed.keep (List.subset_cons_self _ _)
    (fun other there late job _ _ holds =>
      ⟨other, (List.mem_filter.mp there).1, late, holds⟩) ?_
  intro job there _ client known
  by_cases same : job.id = build.jobId
  · obtain rfl := tracked.only there member (same.trans holds.1.symm)
    obtain dead | queued | ⟨-, unmissed⟩ := known
    · cases dead.symm.trans holds.2.1
    · cases queued.symm.trans holds.2.1
    · exact .inl (.inl ⟨build, List.mem_cons_self,
        (tracked.named inside there same).1.symm.trans client,
        saw_of_not_missed read (unmissed build inside holds)⟩)
  · exact .inr ⟨job, Table.mem_modify.mpr (.inl ⟨there, same⟩), .refl job⟩

/-- A change is followed through the death of a worker. -/
theorem followed_crashed (worker : String) (followed : Followed p change) :
    Followed (p.leave worker p.jobs) change :=
  followed.keep (List.Subset.refl _)
    (fun build inside late _ _ _ holds => ⟨build, (List.mem_filter.mp inside).1, late, holds⟩)
    fun job inside _ _ _ => .inr ⟨job, inside, .refl job⟩

/-- Every step that is not too late goes on following every change. -/
theorem followed_step {p' : Pipeline} {label : Label} (tracked : Tracked p)
    (all : ∀ change ∈ p.changes, Followed p change) (meets : NothingTooLate p label)
    (taken : Step env p label p') : ∀ change ∈ p'.changes, Followed p' change := by
  cases taken with
  | enqueued clientId jobType changedKeys debounceSeconds now => exact all
  | coalesced r tick request existing was found =>
    intro change inside
    obtain new | old := List.mem_append.mp inside
    · obtain rfl := List.mem_singleton.mp new
      obtain ⟨job, there, id, client⟩ :=
        tracked.requests request (List.mem_of_getElem? was) existing found
      exact followed_new there id client (meets existing (by simp [was, found]) job there id)
    · exact followed_coalesced (all change old)
  | added r tick request was fresh =>
    intro change inside
    obtain new | old := List.mem_append.mp inside
    · obtain rfl := List.mem_singleton.mp new
      exact followed_of_waiting (List.mem_append_right _ (List.mem_singleton_self _)) rfl rfl
        (.inr rfl)
    · exact (all change old).keep (List.Subset.refl _)
        (fun build inside late _ _ _ holds => ⟨build, inside, late, holds⟩)
        fun job inside _ _ _ => .inr ⟨job, List.mem_append_left _ inside, .refl job⟩
  | unheeded r tick request was => exact all
  | rolledBack r => exact all
  | swept now => exact fun change inside => followed_swept now (all change inside)
  | idled worker now busy locked => exact all
  | claimed worker now busy locked job idle inside queued free =>
    exact fun change member => followed_claimed tracked inside (all change member)
  | read build inside =>
    exact fun change member => followed_read tracked member build.worker (all change member)
  | succeeded build seen inside read =>
    obtain ⟨other, also, worker, held, there, holds⟩ := meets
    obtain rfl := List.inj_on_of_nodup_map tracked.workers also inside worker
    exact fun change member =>
      followed_succeeded tracked inside read there holds (all change member)
  | failed build now error inside =>
    exact fun change member =>
      followed_failed build.worker build.jobId now error (all change member)
  | crashed worker => exact fun change member => followed_crashed worker (all change member)

/-- In every run in which no request commits after its job was read past and no worker finishes a
job it lost, every committed change is attended. -/
theorem no_change_lost (env : Environment) (p : Pipeline)
    (reached : (machine env).Reachable NothingTooLate p) :
    ∀ change ∈ p.changes, Attended p change := by
  have all : ∀ change ∈ p.changes, Followed p change := by
    apply reached.induction
    · rintro p ⟨-, -, -, -, changes⟩ change inside
      simp [changes] at inside
    · intro p label p' before all meets taken
      exact followed_step (tracked_of_reachable before) all meets (step_of_next taken)
  exact fun change inside => (all change inside).attended

/-- A client is changed, and a second request finds the job of the change queued. -/
def sampleSecondRequest : List Label :=
  [.enqueue 2 .fullBuild none 0 0, .commit 0 ⟨0, 100, 200, 300⟩,
    .enqueue 2 .incremental (some ["goals"]) 5 5, .claimNext "one" 10 (fun _ => []) []]

/-- The second request commits after the claim and before the read: the one build is enough for
both changes. -/
theorem commit_before_read_is_built :
    ∃ p, (machine ⟨true, []⟩).play NothingTooLate idlePipeline
        (sampleSecondRequest ++
          [.commit 0 ⟨5, 101, 201, 301⟩, .readClient "one", .succeed "one"]) = some p ∧
      p.changes = [⟨2, 2, 200⟩, ⟨2, 1, 200⟩] ∧ ∀ change ∈ p.changes, Attended p change := by
  have played : ((machine ⟨true, []⟩).play NothingTooLate idlePipeline
      (sampleSecondRequest ++
        [.commit 0 ⟨5, 101, 201, 301⟩, .readClient "one", .succeed "one"])).map
      (fun p => p.changes) = some [⟨2, 2, 200⟩, ⟨2, 1, 200⟩] := by decide
  obtain ⟨p, run, shown⟩ := Option.map_eq_some_iff.mp played
  have start : Start idlePipeline := ⟨rfl, rfl, rfl, rfl, rfl⟩
  exact ⟨p, run, shown,
    no_change_lost ⟨true, []⟩ p ⟨idlePipeline, _, start, Machine.run_of_play run⟩⟩

/-- The second request commits after the read: its change is merged into a job that is already
being built from the old data, and when that build succeeds nothing is left for the change. -/
theorem commit_after_read_is_lost :
    Start idlePipeline ∧ ∃ p, (machine ⟨true, []⟩).play Machine.anyStep idlePipeline
        (sampleSecondRequest ++
          [.readClient "one", .commit 0 ⟨5, 101, 201, 301⟩, .succeed "one"]) = some p ∧
      p.jobs.map (fun job => (job.status, job.changedKeys)) = [(.succeeded, some ["goals"])] ∧
      p.completed.map Build.read = [some 1] ∧
      ∃ change ∈ p.changes, change.version = 2 ∧ ¬Attended p change := by
  have played : ((machine ⟨true, []⟩).play Machine.anyStep idlePipeline
      (sampleSecondRequest ++
        [.readClient "one", .commit 0 ⟨5, 101, 201, 301⟩, .succeed "one"])).map
      (fun p => (p.jobs.map (fun job => (job.status, job.changedKeys)),
        p.completed.map Build.read,
        decide (∃ change ∈ p.changes, change.version = 2 ∧ ¬Attended p change))) =
      some ([(.succeeded, some ["goals"])], [some 1], true) := by decide +kernel
  obtain ⟨p, run, shown⟩ := Option.map_eq_some_iff.mp played
  obtain ⟨rows, shown⟩ := Prod.mk.inj shown
  obtain ⟨reads, lost⟩ := Prod.mk.inj shown
  exact ⟨⟨rfl, rfl, rfl, rfl, rfl⟩, p, run, rows, reads, of_decide_eq_true lost⟩

end MarketingOS.BuildPipeline
