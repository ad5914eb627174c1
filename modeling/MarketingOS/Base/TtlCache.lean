import Mathlib.Logic.Function.Basic
import MarketingOS.Base.Machine

/-!
# Caches that expire

Processes share a store, and each keeps what it last read of the store in two variables of its own,
the value and the time it was read at. Threads of a process run the same read in steps: the clock,
the two variables, the store where the value is missing or too old, the two assignments, and at the
end the value variable again. Requests write to the store, and some then drop the value of their
process. A run logs at each step what a load would have seen there, so that how old an answer is can
be said.
-/
namespace MarketingOS.TtlCache

/-- Where a thread stands. The time is the clock it read first. -/
inductive Call (V : Type) where
  | idle
  | started (now : Int)
  /-- The value was there. -/
  | found (now : Int)
  | missed (now : Int)
  | loaded (now : Int) (value : V)
  /-- The value is assigned, its time not yet. -/
  | assigned (now : Int)
  /-- The value variable is read next, and returned. -/
  | ready (now : Int)
  /-- A writer has committed, and drops the value next. -/
  | committed

/-- When a read began. -/
def Call.since {V : Type} : Call V → Option Int
  | .idle | .committed => none
  | .started now | .found now | .missed now | .loaded now _ | .assigned now | .ready now => some now

/-- The two variables of a process and its threads. -/
structure Process (θ V : Type) where
  cache : Option V
  loadedAt : Int
  calls : θ → Call V

/-- The processes, the store they share and the clock. -/
structure Fleet (ω θ σ V : Type) where
  store : σ
  clock : Int
  processes : ω → Process θ V

/-- A step of the fleet. -/
inductive Label (ω θ ρ : Type) where
  | tick (clock : Int)
  /-- A thread of a process serves a request and commits. -/
  | request (process : ω) (thread : θ) (request : ρ)
  /-- A thread takes its next step; a load may fail. -/
  | step (process : ω) (thread : θ) (fails : Bool)

/-- What is cached, and how the store is written. -/
structure Setup (σ V ρ : Type) where
  /-- What a load gives, by what it sees of the store; it sees nothing where it fails. -/
  load : Option σ → V
  /-- How long a value is good. -/
  ttl : Int
  /-- The store after a request, and whether the value is dropped after it. -/
  serve : σ → ρ → σ × Bool

variable {ω θ σ V ρ : Type} [DecidableEq ω] [DecidableEq θ]

/-- A thread moves on. -/
def Process.goto (p : Process θ V) (thread : θ) (call : Call V) : Process θ V :=
  { p with calls := Function.update p.calls thread call }

/-- What a load sees. -/
def seen (store : σ) (fails : Bool) : Option σ := if fails then none else some store

/-- Where a thread stands after its next step. -/
def Process.moved (setup : Setup σ V ρ) (store : σ) (clock : Int) (thread : θ) (fails : Bool)
    (p : Process θ V) : Call V :=
  match p.calls thread with
  | .idle => .started clock
  | .started now => if p.cache.isNone then .missed now else .found now
  | .found now => if setup.ttl < now - p.loadedAt then .missed now else .ready now
  | .missed now => .loaded now (setup.load (seen store fails))
  | .loaded now _ => .assigned now
  | .assigned now => .ready now
  | .ready _ | .committed => .idle

/-- The next step of a thread; three of them assign to a variable. -/
def Process.advance (setup : Setup σ V ρ) (store : σ) (clock : Int) (thread : θ) (fails : Bool)
    (p : Process θ V) : Process θ V where
  calls := Function.update p.calls thread (p.moved setup store clock thread fails)
  cache :=
    match p.calls thread with
    | .loaded _ value => some value
    | .committed => none
    | _ => p.cache
  loadedAt :=
    match p.calls thread with
    | .assigned now => now
    | _ => p.loadedAt

/-- A process of the fleet is changed. -/
def Fleet.put (fleet : Fleet ω θ σ V) (process : ω) (p : Process θ V) : Fleet ω θ σ V :=
  { fleet with processes := Function.update fleet.processes process p }

/-- The step function. Time does not go back, and a thread that serves a request reads nothing. -/
def next (setup : Setup σ V ρ) (fleet : Fleet ω θ σ V) :
    Label ω θ ρ → Option (Fleet ω θ σ V)
  | .tick clock => if fleet.clock ≤ clock then some { fleet with clock } else none
  | .request process thread request =>
    match (fleet.processes process).calls thread with
    | .idle =>
      let (store, drops) := setup.serve fleet.store request
      let call := if drops then .committed else .idle
      some { fleet.put process ((fleet.processes process).goto thread call) with store }
    | _ => none
  | .step process thread fails =>
    some (fleet.put process
      ((fleet.processes process).advance setup fleet.store fleet.clock thread fails))

/-- Runs of a fleet whose values are missing and whose threads are idle. -/
def machine (setup : Setup σ V ρ) : Machine (Fleet ω θ σ V) (Label ω θ ρ) where
  start fleet := 0 ≤ fleet.clock ∧ ∀ process,
    fleet.processes process = ⟨none, 0, fun _ => .idle⟩
  next := next setup

/-- What a load at a step would see, with the time of it: the store as it is, or nothing where the
load of the step fails. -/
def sightings (fleet : Fleet ω θ σ V) : Label ω θ ρ → List (Int × Option σ)
  | .step process thread true =>
    match (fleet.processes process).calls thread with
    | .missed _ => [(fleet.clock, some fleet.store), (fleet.clock, none)]
    | _ => [(fleet.clock, some fleet.store)]
  | _ => [(fleet.clock, some fleet.store)]

/-- What loads got of what they saw. -/
def Setup.offered (setup : Setup σ V ρ) (log : List (Int × Option σ)) : List (Int × V) :=
  log.map fun sighting => (sighting.1, setup.load sighting.2)

/-! ## What threads and processes are after a step -/

omit [DecidableEq ω] in
/-- Where a thread stands after one has moved on. -/
theorem calls_goto (p : Process θ V) (thread other : θ) (call : Call V) :
    (p.goto thread call).calls other = if other = thread then call else p.calls other := by
  exact Function.update_apply ..

/-! ## How old an answer is -/

/-- The clock is not behind a process. -/
structure Clocked (clock : Int) (p : Process θ V) : Prop where
  stamped : p.loadedAt ≤ clock
  since : ∀ thread now, (p.calls thread).since = some now → now ≤ clock

/-- The values of a process were offered: a loaded one since the read began, and the cached one at
most a slack before it was stamped and before the reads that are about to stamp it began. The reads
that are about to return began at most the lifetime and the slack after it was offered. -/
structure Backed (ttl slack : Int) (log : List (Int × V)) (p : Process θ V) : Prop where
  loaded : ∀ thread now value, p.calls thread = .loaded now value →
    ∃ moment, now ≤ moment ∧ (moment, value) ∈ log
  cached : ∀ value, p.cache = some value → ∃ moment, (moment, value) ∈ log ∧
    p.loadedAt ≤ moment + slack ∧
    (∀ thread now, p.calls thread = .assigned now → now ≤ moment + slack) ∧
    ∀ thread now, p.calls thread = .ready now → now ≤ moment + ttl + slack

/-- A loaded value is assigned at most a slack after the last stamp and the other reads began. -/
def Timely (slack : Int) (p : Process θ V) (thread : θ) : Prop :=
  ∀ now value, p.calls thread = .loaded now value → p.loadedAt ≤ now + slack ∧
    ∀ other began, (p.calls other).since = some began → began ≤ now + slack

variable {setup : Setup σ V ρ} {store : σ} {clock slack : Int} {thread : θ} {fails : Bool}
  {log log' : List (Int × V)} {p : Process θ V}

/-- The steps of a thread one by one. -/
theorem advance_eq : p.advance setup store clock thread fails =
    match p.calls thread with
    | .idle => p.goto thread (.started clock)
    | .started now => p.goto thread (if p.cache.isNone then .missed now else .found now)
    | .found now =>
      p.goto thread (if setup.ttl < now - p.loadedAt then .missed now else .ready now)
    | .missed now => p.goto thread (.loaded now (setup.load (seen store fails)))
    | .loaded now value => { p.goto thread (.assigned now) with cache := some value }
    | .assigned now => { p.goto thread (.ready now) with loadedAt := now }
    | .ready _ => p.goto thread .idle
    | .committed => { p.goto thread .idle with cache := none } := by
  unfold Process.advance Process.moved Process.goto
  cases p.calls thread <;> rfl

/-- Where the threads stand after a step of one. -/
theorem calls_advance (other : θ) :
    (p.advance setup store clock thread fails).calls other =
      if other = thread then p.moved setup store clock thread fails else p.calls other :=
  Function.update_apply ..

omit [DecidableEq θ] in
/-- A step that does not begin a read keeps when it began. -/
theorem since_moved {now : Int}
    (began : (p.moved setup store clock thread fails).since = some now) :
    (p.calls thread).since = some now ∨ (p.calls thread = .idle ∧ now = clock) := by
  unfold Process.moved at began
  cases stands : p.calls thread with
  | idle =>
    rw [stands] at began
    exact .inr ⟨rfl, (Option.some.inj began).symm⟩
  | started first =>
    rw [stands] at began
    dsimp only at began
    split at began <;> exact .inl began
  | found first =>
    rw [stands] at began
    dsimp only at began
    split at began <;> exact .inl began
  | missed first => exact .inl (by rwa [stands] at began)
  | loaded first value => exact .inl (by rwa [stands] at began)
  | assigned first => exact .inl (by rwa [stands] at began)
  | ready first =>
    rw [stands] at began
    cases began
  | committed =>
    rw [stands] at began
    cases began

/-- When the reads began after a step of a thread. -/
theorem since_advance {other : θ} {now : Int}
    (began : ((p.advance setup store clock thread fails).calls other).since = some now) :
    (p.calls other).since = some now ∨
      (other = thread ∧ p.calls thread = .idle ∧ now = clock) := by
  rw [calls_advance] at began
  split at began
  · next same =>
    subst same
    exact (since_moved began).imp_right fun idle => ⟨rfl, idle⟩
  · exact .inl began

/-- The stamp after a step of a thread. -/
theorem loadedAt_advance :
    (p.advance setup store clock thread fails).loadedAt = p.loadedAt ∨
      ∃ now, p.calls thread = .assigned now ∧
        (p.advance setup store clock thread fails).loadedAt = now := by
  cases stands : p.calls thread with
  | assigned now => exact .inr ⟨now, rfl, by simp only [Process.advance, stands]⟩
  | idle => exact .inl (by simp only [Process.advance, stands])
  | started now => exact .inl (by simp only [Process.advance, stands])
  | found now => exact .inl (by simp only [Process.advance, stands])
  | missed now => exact .inl (by simp only [Process.advance, stands])
  | loaded now value => exact .inl (by simp only [Process.advance, stands])
  | ready now => exact .inl (by simp only [Process.advance, stands])
  | committed => exact .inl (by simp only [Process.advance, stands])

/-- A process stays behind the clock. -/
theorem Clocked.advance (behind : Clocked clock p) :
    Clocked clock (p.advance setup store clock thread fails) := by
  constructor
  · have stamp : (p.advance setup store clock thread fails).loadedAt = p.loadedAt ∨
        ∃ now, p.calls thread = .assigned now ∧
          (p.advance setup store clock thread fails).loadedAt = now := loadedAt_advance
    rcases stamp with same | ⟨now, stands, stamped⟩
    · rw [same]
      exact behind.stamped
    · rw [stamped]
      exact behind.since thread now (by rw [stands]; rfl)
  · intro other now began
    rcases since_advance began with before | ⟨-, -, rfl⟩
    · exact behind.since other now before
    · exact Int.le_refl _

omit [DecidableEq θ] in
/-- Values that were offered stay so. -/
theorem Backed.mono {ttl : Int} (backed : Backed ttl slack log p) (more : log ⊆ log') :
    Backed ttl slack log' p where
  loaded thread now value stands := by
    obtain ⟨moment, since, offered⟩ := backed.loaded thread now value stands
    exact ⟨moment, since, more offered⟩
  cached value there := by
    obtain ⟨moment, offered, rest⟩ := backed.cached value there
    exact ⟨moment, more offered, rest⟩

/-- A thread that moves on where no value is read keeps the values offered. -/
theorem Backed.goto {ttl : Int} (backed : Backed ttl slack log p) {call : Call V}
    (loads : ∀ now value, call = .loaded now value → ∃ moment, now ≤ moment ∧ (moment, value) ∈ log)
    (quiet : ∀ now, call ≠ .assigned now)
    (due : ∀ now, call = .ready now → now ≤ p.loadedAt + ttl) :
    Backed ttl slack log (p.goto thread call) where
  loaded other now value stands := by
    rw [calls_goto] at stands
    split at stands
    · exact loads now value stands
    · exact backed.loaded other now value stands
  cached value there := by
    obtain ⟨moment, offered, stamped, assigned, ready⟩ := backed.cached value there
    refine ⟨moment, offered, stamped, fun other now stands => ?_, fun other now stands => ?_⟩
    · rw [calls_goto] at stands
      split at stands
      · exact absurd stands (quiet now)
      · exact assigned other now stands
    · rw [calls_goto] at stands
      split at stands
      · have early := due now stands
        omega
      · exact ready other now stands

/-- A step of a thread keeps the values offered, when a load that is taken was offered and an
assignment is timely. -/
theorem Backed.advance {ttl : Int} (lives : 0 ≤ ttl) (ttlIs : setup.ttl = ttl) (short : 0 ≤ slack)
    (backed : Backed ttl slack log p) (behind : Clocked clock p) (timely : Timely slack p thread)
    (offered : ∀ now, p.calls thread = .missed now → (clock, setup.load (seen store fails)) ∈ log) :
    Backed ttl slack log (p.advance setup store clock thread fails) := by
  subst ttlIs
  rw [advance_eq]
  cases stands : p.calls thread with
  | idle =>
    exact backed.goto (fun _ _ h => by cases h) (fun _ h => by cases h) (fun _ h => by cases h)
  | started now =>
    apply backed.goto
    · intro later value h
      split at h <;> cases h
    · intro later h
      split at h <;> cases h
    · intro later h
      split at h <;> cases h
  | found now =>
    apply backed.goto
    · intro later value h
      split at h <;> cases h
    · intro later h
      split at h <;> cases h
    · intro later h
      split at h
      · cases h
      · next young =>
        cases h
        omega
  | missed now =>
    apply backed.goto
    · intro later value h
      cases h
      exact ⟨clock, behind.since thread now (by rw [stands]; rfl), offered now stands⟩
    · exact fun _ h => by cases h
    · exact fun _ h => by cases h
  | loaded now value =>
    obtain ⟨moment, since, there⟩ := backed.loaded thread now value stands
    obtain ⟨stamped, others⟩ := timely now value stands
    constructor
    · intro other later read standing
      rw [calls_goto] at standing
      split at standing
      · cases standing
      · exact backed.loaded other later read standing
    · intro read same
      obtain rfl := Option.some.inj same
      refine ⟨moment, there, ?_, fun other later standing => ?_, fun other later standing => ?_⟩
      · show p.loadedAt ≤ moment + slack
        omega
      · rw [calls_goto] at standing
        split at standing
        · cases standing
          omega
        · have began := others other later (by rw [standing]; rfl)
          omega
      · rw [calls_goto] at standing
        split at standing
        · cases standing
        · have began := others other later (by rw [standing]; rfl)
          omega
  | assigned now =>
    constructor
    · intro other later read standing
      rw [calls_goto] at standing
      split at standing
      · cases standing
      · exact backed.loaded other later read standing
    · intro read there
      obtain ⟨moment, listed, -, assigned, ready⟩ := backed.cached read there
      have began := assigned thread now stands
      refine ⟨moment, listed, began, fun other later standing => ?_, fun other later standing => ?_⟩
      · rw [calls_goto] at standing
        split at standing
        · cases standing
        · exact assigned other later standing
      · rw [calls_goto] at standing
        split at standing
        · cases standing
          omega
        · exact ready other later standing
  | ready now =>
    exact backed.goto (fun _ _ h => by cases h) (fun _ h => by cases h) (fun _ h => by cases h)
  | committed =>
    have moved : Backed setup.ttl slack log (p.goto thread .idle) :=
      backed.goto (fun _ _ h => by cases h) (fun _ h => by cases h) (fun _ h => by cases h)
    exact ⟨moved.loaded, fun _ there => by cases there⟩

/-! ## Runs -/

/-- What a step does to a process. -/
theorem next_process {fleet fleet' : Fleet ω θ σ V} {label : Label ω θ ρ}
    (taken : next setup fleet label = some fleet') (process : ω) :
    fleet'.processes process = fleet.processes process ∨
      (∃ thread request call, label = .request process thread request ∧ call.since = none ∧
        fleet'.processes process = (fleet.processes process).goto thread call) ∨
      ∃ thread fails, label = .step process thread fails ∧
        fleet'.processes process =
          (fleet.processes process).advance setup fleet.store fleet.clock thread fails := by
  cases label with
  | tick clock =>
    simp only [next, Option.ite_none_right_eq_some, Option.some.injEq] at taken
    obtain ⟨-, rfl⟩ := taken
    exact .inl rfl
  | request writer thread request =>
    simp only [next] at taken
    split at taken
    · obtain rfl := Option.some.inj taken
      by_cases same : process = writer
      · subst same
        refine .inr (.inl ⟨thread, request, _, rfl, ?_, Function.update_self ..⟩)
        split <;> rfl
      · exact .inl (Function.update_of_ne same ..)
    · cases taken
  | step reader thread fails =>
    obtain rfl := Option.some.inj taken
    by_cases same : process = reader
    · subst same
      exact .inr (.inr ⟨thread, fails, rfl, Function.update_self ..⟩)
    · exact .inl (Function.update_of_ne same ..)

/-- Time does not go back, and only a tick moves it. -/
theorem next_clock {fleet fleet' : Fleet ω θ σ V} {label : Label ω θ ρ}
    (taken : next setup fleet label = some fleet') :
    fleet.clock ≤ fleet'.clock ∧ (fleet'.clock = fleet.clock ∨ label = .tick fleet'.clock) := by
  cases label with
  | tick clock =>
    simp only [next, Option.ite_none_right_eq_some, Option.some.injEq] at taken
    obtain ⟨later, rfl⟩ := taken
    exact ⟨later, .inr rfl⟩
  | request writer thread request =>
    simp only [next] at taken
    split at taken
    · obtain rfl := Option.some.inj taken
      exact ⟨Int.le_refl _, .inl rfl⟩
    · cases taken
  | step reader thread fails =>
    obtain rfl := Option.some.inj taken
    exact ⟨Int.le_refl _, .inl rfl⟩

/-- When a read began that is under way after a thread was sent to where it reads nothing. -/
theorem since_goto {call : Call V} {other : θ} {now : Int} (quiet : call.since = none)
    (began : ((p.goto thread call).calls other).since = some now) :
    (p.calls other).since = some now := by
  rw [calls_goto] at began
  split at began
  · rw [quiet] at began
    cases began
  · exact began

/-- The processes of a fleet are behind its clock, and their values were offered. -/
structure Fresh (setup : Setup σ V ρ) (slack : Int) (s : Fleet ω θ σ V × List (Int × Option σ)) :
    Prop where
  clocked : ∀ process, Clocked s.1.clock (s.1.processes process)
  backed : ∀ process, Backed setup.ttl slack (setup.offered s.2) (s.1.processes process)

/-- A condition on the thread that takes a step. -/
def OnStep (condition : Process θ V → θ → Prop) (fleet : Fleet ω θ σ V) :
    Label ω θ ρ → Prop
  | .step process thread _ => condition (fleet.processes process) thread
  | _ => True

omit [DecidableEq ω] [DecidableEq θ] in
/-- What was seen was offered. -/
theorem mem_offered {log : List (Int × Option σ)} {moment : Int} {value : V} :
    (moment, value) ∈ setup.offered log ↔
      ∃ sight, (moment, sight) ∈ log ∧ setup.load sight = value := by
  simp only [Setup.offered, List.mem_map, Prod.mk.injEq, Prod.exists]
  constructor
  · rintro ⟨time, sight, logged, rfl, same⟩
    exact ⟨sight, logged, same⟩
  · rintro ⟨sight, logged, same⟩
    exact ⟨moment, sight, logged, rfl, same⟩

omit [DecidableEq ω] [DecidableEq θ] in
/-- What a load sees is logged. -/
theorem load_logged {fleet : Fleet ω θ σ V} {process : ω} {now : Int}
    (stands : (fleet.processes process).calls thread = .missed now) (fails : Bool) :
    (fleet.clock, seen fleet.store fails) ∈
      sightings fleet (.step process thread fails : Label ω θ ρ) := by
  cases fails with
  | false => exact List.mem_singleton_self _
  | true =>
    simp only [sightings, stands]
    exact List.mem_cons_of_mem _ (List.mem_singleton_self _)

/-- A step whose assignment is timely keeps a fleet fresh. -/
theorem Fresh.step (lives : 0 ≤ setup.ttl) (short : 0 ≤ slack) {fleet fleet' : Fleet ω θ σ V}
    {label : Label ω θ ρ} {log : List (Int × Option σ)} (fresh : Fresh setup slack (fleet, log))
    (timely : OnStep (Timely slack) fleet label) (taken : next setup fleet label = some fleet') :
    Fresh setup slack (fleet', log ++ sightings fleet label) := by
  have more : setup.offered log ⊆ setup.offered (log ++ sightings fleet label) :=
    List.map_subset _ (List.subset_append_left _ _)
  have later := (next_clock taken).1
  refine ⟨fun process => ?_, fun process => ?_⟩
  · have behind : Clocked fleet.clock (fleet'.processes process) := by
      rcases next_process taken process with same | ⟨thread, request, call, -, quiet, same⟩ |
          ⟨thread, fails, -, same⟩
      · rw [same]
        exact fresh.clocked process
      · rw [same]
        exact ⟨(fresh.clocked process).stamped, fun reader now began =>
          (fresh.clocked process).since reader now (since_goto quiet began)⟩
      · rw [same]
        exact (fresh.clocked process).advance
    exact ⟨Int.le_trans behind.stamped later, fun reader now began =>
      Int.le_trans (behind.since reader now began) later⟩
  · rcases next_process taken process with same | ⟨thread, request, call, -, quiet, same⟩ |
        ⟨thread, fails, rfl, same⟩
    · rw [same]
      exact (fresh.backed process).mono more
    · rw [same]
      exact ((fresh.backed process).goto (fun _ _ h => by subst h; cases quiet)
        (fun _ h => by subst h; cases quiet) (fun _ h => by subst h; cases quiet)).mono more
    · rw [same]
      refine ((fresh.backed process).mono more).advance lives rfl short (fresh.clocked process)
        timely fun now stands => ?_
      exact mem_offered.mpr ⟨_, List.mem_append_right _ (load_logged stands fails), rfl⟩

omit [DecidableEq ω] [DecidableEq θ] in
/-- A fresh fleet is one a run begins in. -/
theorem fresh_of_start {fleet : Fleet ω θ σ V} (lives : 0 ≤ fleet.clock)
    (idle : ∀ process, fleet.processes process = ⟨none, 0, fun _ => .idle⟩) :
    Fresh setup slack (fleet, ([] : List (Int × Option σ))) := by
  refine ⟨fun process => ?_, fun process => ?_⟩
  · rw [idle process]
    exact ⟨lives, fun _ _ began => by cases began⟩
  · rw [idle process]
    exact ⟨fun _ _ _ stands => (by cases stands), fun _ there => by cases there⟩

/-- A logged run whose steps meet a condition that makes them timely, by an invariant of its own. -/
theorem fresh_of_reachable (lives : 0 ≤ setup.ttl) (short : 0 ≤ slack)
    {allowed : Machine.Guard (Fleet ω θ σ V) (Label ω θ ρ)} {holds : Fleet ω θ σ V → Prop}
    (initial : ∀ fleet, (machine setup).start fleet → holds fleet)
    (kept : ∀ fleet label fleet', (∀ process, Clocked fleet.clock (fleet.processes process)) →
      holds fleet → allowed fleet label → next setup fleet label = some fleet' → holds fleet')
    (timely : ∀ fleet label fleet', (∀ process, Clocked fleet.clock (fleet.processes process)) →
      holds fleet → allowed fleet label → next setup fleet label = some fleet' →
      OnStep (Timely slack) fleet label)
    {s : Fleet ω θ σ V × List (Int × Option σ)}
    (reached : ((machine setup).logged sightings).Reachable (fun s label => allowed s.1 label) s) :
    Fresh setup slack s ∧ holds s.1 := by
  apply reached.invariant fun s => Fresh setup slack s ∧ holds s.1
  · rintro ⟨fleet, log⟩ ⟨start, rfl⟩
    exact ⟨fresh_of_start start.1 start.2, initial fleet start⟩
  · rintro ⟨fleet, log⟩ label s' ⟨fresh, before⟩ meets taken
    obtain ⟨fleet', moved, rfl⟩ := Option.map_eq_some_iff.mp taken
    have assigns := timely fleet label fleet' fresh.clocked before meets moved
    exact ⟨fresh.step lives short assigns moved,
      kept fleet label fleet' fresh.clocked before meets moved⟩

/-- No read takes longer than this. -/
def Brief (longest : Int) (fleet : Fleet ω θ σ V) : Label ω θ ρ → Prop
  | .tick clock => ∀ process thread now,
      ((fleet.processes process).calls thread).since = some now → clock ≤ now + longest
  | _ => True

/-- No two reads of a process overlap. -/
def Alone (fleet : Fleet ω θ σ V) (label : Label ω θ ρ) : Prop :=
  OnStep (fun p thread => p.calls thread = .idle → ∀ other, (p.calls other).since = none)
    fleet label

/-- The reads of a process began not long before the clock. -/
def Recent (longest : Int) (fleet : Fleet ω θ σ V) : Prop :=
  ∀ process thread now, ((fleet.processes process).calls thread).since = some now →
    fleet.clock ≤ now + longest

/-- Short reads stay recent. -/
theorem Recent.step {longest : Int} (short : 0 ≤ longest) {fleet fleet' : Fleet ω θ σ V}
    {label : Label ω θ ρ} (recent : Recent longest fleet) (brief : Brief longest fleet label)
    (taken : next setup fleet label = some fleet') : Recent longest fleet' := by
  intro process reader now began
  rcases (next_clock taken).2 with still | rfl
  · rw [still]
    rcases next_process taken process with same | ⟨thread, request, call, -, quiet, same⟩ |
        ⟨thread, fails, -, same⟩
    · exact recent process reader now (same ▸ began)
    · exact recent process reader now (since_goto quiet (same ▸ began))
    · rw [same] at began
      rcases since_advance began with before | ⟨-, -, rfl⟩
      · exact recent process reader now before
      · exact Int.le_add_of_nonneg_right short
  · rcases next_process taken process with same | ⟨_, _, _, ⟨⟩, -⟩ | ⟨_, _, ⟨⟩, -⟩
    exact brief process reader now (same ▸ began)

/-- Where no read takes longer than some time, what is about to be answered was loaded of what was
seen at most that time and the lifetime before the read began. -/
theorem served_brief (lives : 0 ≤ setup.ttl) {longest : Int} (short : 0 ≤ longest)
    {s : Fleet ω θ σ V × List (Int × Option σ)}
    (reached : ((machine setup).logged sightings).Reachable
      (fun s label => Brief longest s.1 label) s)
    {process : ω} {thread : θ} {now : Int} {value : V}
    (stands : (s.1.processes process).calls thread = .ready now)
    (there : (s.1.processes process).cache = some value) :
    ∃ moment sight, (moment, sight) ∈ s.2 ∧ setup.load sight = value ∧
      now ≤ moment + setup.ttl + longest := by
  have fresh : Fresh setup longest s ∧ Recent longest s.1 := by
    apply fresh_of_reachable lives short ?_ ?_ ?_ reached
    · intro fleet start process thread now began
      rw [start.2 process] at began
      cases began
    · exact fun _ _ _ _ recent brief taken => recent.step short brief taken
    · intro fleet label _ behind recent _ _
      cases label with
      | tick clock => exact True.intro
      | request process thread request => exact True.intro
      | step process thread fails =>
        intro now value stands
        have young := recent process thread now (by rw [stands]; rfl)
        exact ⟨Int.le_trans (behind process).stamped young, fun other began since =>
          Int.le_trans ((behind process).since other began since) young⟩
  obtain ⟨moment, offered, -, -, ready⟩ := (fresh.1.backed process).cached value there
  obtain ⟨sight, logged, same⟩ := mem_offered.mp offered
  exact ⟨moment, sight, logged, same, ready thread now stands⟩

/-- At most one read of a process is under way, and the stamp is not younger. -/
structure Sole (p : Process θ V) : Prop where
  one : ∀ thread other began first, (p.calls thread).since = some began →
    (p.calls other).since = some first → thread = other
  stamped : ∀ thread began, (p.calls thread).since = some began → p.loadedAt ≤ began

/-- Every process has at most one read under way. -/
def Single (fleet : Fleet ω θ σ V) : Prop := ∀ process, Sole (fleet.processes process)

/-- A step of a thread keeps a single read single. -/
theorem Sole.advance (sole : Sole p) (behind : Clocked clock p)
    (alone : p.calls thread = .idle → ∀ other, (p.calls other).since = none) :
    Sole (p.advance setup store clock thread fails) := by
  constructor
  · intro reader other began first reading reading'
    rcases since_advance reading with before | ⟨rfl, idle, rfl⟩
    · rcases since_advance reading' with before' | ⟨rfl, idle, rfl⟩
      · exact sole.one reader other began first before before'
      · rw [alone idle reader] at before
        cases before
    · rcases since_advance reading' with before' | ⟨rfl, -, rfl⟩
      · rw [alone idle other] at before'
        cases before'
      · rfl
  · intro reader began reading
    have stamp : (p.advance setup store clock thread fails).loadedAt = p.loadedAt ∨
        ∃ now, p.calls thread = .assigned now ∧
          (p.advance setup store clock thread fails).loadedAt = now := loadedAt_advance
    rcases since_advance reading with before | ⟨rfl, idle, rfl⟩
    · rcases stamp with same | ⟨now, stands, stamped⟩
      · rw [same]
        exact sole.stamped reader began before
      · have since : (p.calls thread).since = some now := by rw [stands]; rfl
        obtain rfl := sole.one reader thread began now before since
        have same : began = now := Option.some.inj (before.symm.trans since)
        exact Int.le_of_eq (stamped.trans same.symm)
    · rcases stamp with same | ⟨now, stands, -⟩
      · rw [same]
        exact behind.stamped
      · rw [idle] at stands
        cases stands

/-- Where no two reads of a process overlap, what is about to be answered was loaded of what was
seen at most the lifetime before the read began. -/
theorem served_alone (lives : 0 ≤ setup.ttl) {s : Fleet ω θ σ V × List (Int × Option σ)}
    (reached : ((machine setup).logged sightings).Reachable (fun s label => Alone s.1 label) s)
    {process : ω} {thread : θ} {now : Int} {value : V}
    (stands : (s.1.processes process).calls thread = .ready now)
    (there : (s.1.processes process).cache = some value) :
    ∃ moment sight, (moment, sight) ∈ s.2 ∧ setup.load sight = value ∧
      now ≤ moment + setup.ttl := by
  have fresh : Fresh setup 0 s ∧ Single s.1 := by
    apply fresh_of_reachable lives (Int.le_refl 0) ?_ ?_ ?_ reached
    · intro fleet start process
      rw [start.2 process]
      exact ⟨fun _ _ _ _ began => (by cases began), fun _ _ began => by cases began⟩
    · intro fleet label fleet' behind sole alone taken process
      rcases next_process taken process with same | ⟨thread, request, call, -, quiet, same⟩ |
          ⟨thread, fails, rfl, same⟩
      · rw [same]
        exact sole process
      · rw [same]
        exact ⟨fun reader other began first reading reading' => (sole process).one reader other
            began first (since_goto quiet reading) (since_goto quiet reading'),
          fun reader began reading => (sole process).stamped reader began
            (since_goto quiet reading)⟩
      · rw [same]
        exact (sole process).advance (behind process) alone
    · intro fleet label _ behind sole _ _
      cases label with
      | tick clock => exact True.intro
      | request process thread request => exact True.intro
      | step process thread fails =>
        intro now value stands
        have since : ((fleet.processes process).calls thread).since = some now := by
          rw [stands]
          rfl
        have stamped := (sole process).stamped thread now since
        refine ⟨by omega, fun other began reading => ?_⟩
        obtain rfl := (sole process).one other thread began now reading since
        have same := Option.some.inj (reading.symm.trans since)
        omega
  obtain ⟨moment, offered, -, -, ready⟩ := (fresh.1.backed process).cached value there
  obtain ⟨sight, logged, same⟩ := mem_offered.mp offered
  have due := ready thread now stands
  exact ⟨moment, sight, logged, same, by omega⟩

end MarketingOS.TtlCache
