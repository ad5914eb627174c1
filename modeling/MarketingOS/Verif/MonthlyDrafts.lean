import MarketingOS.Base.ReceiptOnce
import MarketingOS.Services.Scheduler
import MarketingOS.Verif.Approval

/-! # Months are drafted once by runs that do not cross

The log row of a client and a month is the receipt of its drafts, written after `propose_range` has
committed them. Runs that leave drafts and their row together refine, for every client and month,
an effect whose receipt is written by the only party inside, so the drafts of one call at most are
committed. -/
namespace MarketingOS.SchedulerService

open PlanGenerationService (FreshItem)

/-- Whether a run has looked for a month and not ended. -/
def Run.inFlight (pair : Uuid × String) : Run → Bool
  | .looked target | .drafted target _ => target.pair = pair
  | _ => false

/-- Whether a run has committed drafts of a month and not written its row. -/
def Run.unrecorded (pair : Uuid × String) : Run → Bool
  | .drafted target itemCount => target.pair = pair && itemCount ≠ 0
  | _ => false

/-- No run looks a month up while drafts of it are not recorded; drafts of a month are committed
by the only run of it in flight; and a run that has committed drafts gets to its row. -/
def Alone : Machine.Guard World Label
  | w, .lookUp r => ∀ target, w.runs[r]? = some (.due target) →
    ∀ run ∈ w.runs, run.unrecorded target.pair = false
  | w, .proposeRange r _ drafts _ => ∀ target, w.runs[r]? = some (.looked target) → drafts ≠ [] →
    ∀ (other : Nat) (run : Run), w.runs[other]? = some run → other ≠ r →
      run.inFlight target.pair = false
  | w, .fail r _ | w, .crash r => ∀ run, w.runs[r]? = some run →
    ∀ pair, run.unrecorded pair = false
  | _, .begin _ _ _ | _, .record _ _ _ => True

/-- The calls of `propose_range` for a client and a month whose drafts are committed. -/
def World.draftsOf (w : World) (pair : Uuid × String) : List Call :=
  w.calls.filter fun call => call.pair = pair && !call.drafts.isEmpty

/-! ## What a call leaves in the database -/

/-- The calendar items and the tasks after the loop. -/
theorem addDrafts_rows {now : Timestamp} {clientId : Uuid} {createdBy assigneeId : Option Uuid}
    {t t' : Tables} {drafts : List (FreshItem × ProposedItem)}
    (added : PlanGenerationService.addDrafts now clientId createdBy assigneeId t drafts = .ok t') :
    t'.events = t.events ++ drafts.map (fun (fresh, item) =>
        PlanGenerationService.draftEvent fresh clientId createdBy item) ∧
      t'.planTasks = t.planTasks ++ drafts.map (fun (fresh, item) =>
        PlanGenerationService.draftTask now fresh clientId createdBy assigneeId item) := by
  induction drafts generalizing t with
  | nil =>
    obtain rfl := Except.ok.inj added
    simp
  | cons draft rest ih =>
    obtain ⟨fresh, item⟩ := draft
    simp only [PlanGenerationService.addDrafts, Outcome.bind_ok] at added
    obtain ⟨flushed, sent, filled, sentToo, remaining⟩ := added
    obtain ⟨rfl, -⟩ := flush_ok sent
    obtain ⟨rfl, -⟩ := flush_ok sentToo
    obtain ⟨events, tasks⟩ := ih remaining
    simp [events, tasks]

/-- A call that commits adds the calendar item of every draft and removes none. -/
theorem proposeRange_events {now : Timestamp} {db db' : Database} {clientId : Uuid}
    {startDate endDate : Date} {createdBy assigneeId : Option Uuid}
    {drafts : List (FreshItem × ProposedItem)}
    (proposed : PlanGenerationService.proposeRange now db clientId startDate endDate createdBy
      assigneeId drafts = .ok db') :
    db'.tables.events = db.tables.events ++ drafts.map fun (fresh, item) =>
      PlanGenerationService.draftEvent fresh clientId createdBy item := by
  unfold PlanGenerationService.proposeRange at proposed
  split at proposed
  · cases proposed
  · obtain ⟨t, added, committed⟩ := Outcome.bind_ok.mp proposed
    rw [commit_ok committed]
    exact (addDrafts_rows added).1

/-- The calendar items a call adds. -/
def Call.events (call : Call) : List MarketingEvent :=
  call.drafts.map fun (fresh, item) =>
    PlanGenerationService.draftEvent fresh call.pair.1 none item

/-- A step adds to the calendar what its call adds. -/
theorem next_events {w w' : World} {label : Label} (first : List MarketingEvent)
    (before : w.db.tables.events = first ++ w.calls.flatMap Call.events)
    (taken : machine.next w label = some w') :
    w'.db.tables.events = first ++ w'.calls.flatMap Call.events := by
  cases label with
  | proposeRange r now drafts message =>
    simp only [machine, next] at taken
    split at taken
    · rename_i target was
      split at taken
      · rename_i db proposed
        obtain rfl := Option.some.inj taken
        simp only [proposeRange_events proposed, before, List.flatMap_append, List.append_assoc]
        simp [Call.events, Target.pair]
      · obtain rfl := Option.some.inj taken
        exact before
    · cases taken
  | _ =>
    simp only [machine, next] at taken
    split at taken <;> (try split at taken) <;> cases taken <;> exact before

/-- After any run, the calendar holds what it held and the drafts of the calls that committed. -/
theorem run_events {first w : World} {labels : List Label} (started : machine.start first)
    (run : machine.Run Machine.anyStep first labels w) :
    w.db.tables.events = first.db.tables.events ++ w.calls.flatMap Call.events := by
  apply run.preserves (fun s label s' before _ taken => next_events _ before taken)
  rw [started.1]
  simp

/-! ## The view -/

/-- The client and the month of a row. -/
def AutoPlanGenerationRow.pair (row : AutoPlanGenerationRow) : Uuid × String :=
  (row.clientId, row.period)

/-- Where a run stands, seen as a party of the drafts of one month. -/
def Run.party (pair : Uuid × String) : Run → ReceiptOnce.Party
  | .idle | .left | .due _ => .outside
  | .looked target => if target.pair = pair then .looked else .outside
  | .drafted target itemCount =>
    if target.pair = pair then (if itemCount = 0 then .looked else .acted) else .outside
  | .returned row => if row.pair = pair then .done else .outside
  | .crashed target => if target.pair = pair then .done else .outside

/-- The runs, seen as parties of the drafts of one month. -/
def view (pair : Uuid × String) (w : World) : ReceiptOnce.State Nat where
  receipt := w.logged pair
  party := ReceiptOnce.parties (Run.party pair) w.runs
  effects := (w.draftsOf pair).length

variable {pair : Uuid × String} {w : World} {r : Nat} {run : Run}

/-- A run with unrecorded drafts is a party that has acted. -/
theorem Run.party_eq_acted (run : Run) : run.party pair = .acted ↔ run.unrecorded pair = true := by
  cases run with
  | drafted target itemCount =>
    by_cases own : target.pair = pair <;> by_cases empty : itemCount = 0 <;>
      simp [Run.party, Run.unrecorded, own, empty]
  | looked target =>
    by_cases own : target.pair = pair <;> simp [Run.party, Run.unrecorded, own]
  | returned row => by_cases own : row.pair = pair <;> simp [Run.party, Run.unrecorded, own]
  | crashed target =>
    by_cases own : target.pair = pair <;> simp [Run.party, Run.unrecorded, own]
  | _ => simp [Run.party, Run.unrecorded]

/-- A run in flight is a party inside. -/
theorem Run.party_inside (run : Run) : (run.party pair).inside = run.inFlight pair := by
  cases run with
  | drafted target itemCount =>
    by_cases own : target.pair = pair <;> by_cases empty : itemCount = 0 <;>
      simp [Run.party, Run.inFlight, ReceiptOnce.Party.inside, own, empty]
  | looked target =>
    by_cases own : target.pair = pair <;>
      simp [Run.party, Run.inFlight, ReceiptOnce.Party.inside, own]
  | returned row =>
    by_cases own : row.pair = pair <;>
      simp [Run.party, Run.inFlight, ReceiptOnce.Party.inside, own]
  | crashed target =>
    by_cases own : target.pair = pair <;>
      simp [Run.party, Run.inFlight, ReceiptOnce.Party.inside, own]
  | _ => rfl

/-- The party of a run. -/
theorem view_party (place : w.runs[r]? = some run) : (view pair w).party r = run.party pair :=
  ReceiptOnce.parties_of_get place

/-- The view of a world whose run has moved. -/
theorem view_move (was : w.runs[r]? = some run) (run' : Run) :
    view pair (w.move r run') = (view pair w).move r (run'.party pair) := by
  apply ReceiptOnce.State.ext
  · rfl
  · exact ReceiptOnce.parties_set was run'
  · rfl

/-- The view of a world whose run has committed its drafts. -/
theorem view_propose (pair : Uuid × String) (was : w.runs[r]? = some run) (run' : Run) (db : Database) (call : Call) :
    view pair { w.move r run' with db := db, calls := w.calls ++ [call] } =
      { (view pair w).move r (run'.party pair) with
        effects := (view pair w).effects +
          if call.pair = pair && !call.drafts.isEmpty then 1 else 0 } := by
  apply ReceiptOnce.State.ext
  · rfl
  · exact ReceiptOnce.parties_set was run'
  · simp only [view, World.draftsOf, World.move, List.filter_append, List.length_append,
      List.filter_cons, List.filter_nil]
    split <;> rfl

/-- The view of a world whose run has written its row. -/
theorem view_record (was : w.runs[r]? = some run) (run' : Run) (row : AutoPlanGenerationLog) :
    view pair { w.move r run' with log := w.log ++ [row] } =
      { (view pair w).move r (run'.party pair) with
        receipt := (view pair w).receipt || decide (row.pair = pair) } := by
  apply ReceiptOnce.State.ext
  · simp [view, World.logged, World.move, Table.has]
  · exact ReceiptOnce.parties_set was run'
  · rfl

/-! ## The simulation -/

/-- What a step shows of itself: nothing, or a careful step of a party. -/
def Shows (pair : Uuid × String) (w w' : World) : Prop :=
  view pair w' = view pair w ∨
    ∃ seen, ReceiptOnce.Careful (view pair w) seen ∧
      ReceiptOnce.next (view pair w) seen = some (view pair w')

/-- A move to a place that looks the same shows nothing. -/
theorem shows_of_same_party {run' : Run} (was : w.runs[r]? = some run)
    (same : run'.party pair = run.party pair) : Shows pair w (w.move r run') := by
  left
  rw [view_move was, same]
  exact ReceiptOnce.State.move_self (view_party was)

/-- A run that has committed no drafts is a party that has looked. -/
theorem drafted_party {target : Target} {itemCount : Nat}
    (recorded : ∀ pair, (Run.drafted target itemCount).unrecorded pair = false) :
    (Run.drafted target itemCount).party pair =
      if target.pair = pair then .looked else .outside := by
  have empty : itemCount = 0 := by simpa [Run.unrecorded] using recorded target.pair
  simp [Run.party, empty]

/-- A run without unrecorded drafts that ends is a party that leaves, or of another month. -/
theorem shows_end {run' : Run} (target : Target) (was : w.runs[r]? = some run)
    (here : run.party pair = if target.pair = pair then .looked else .outside)
    (ends : run'.party pair = if target.pair = pair then .done else .outside) :
    Shows pair w (w.move r run') := by
  by_cases own : target.pair = pair
  · rw [if_pos own] at here ends
    have there : (view pair w).party r = .looked := (view_party was).trans here
    right
    refine ⟨.leave r false, ?_, ?_⟩
    · intro acted
      rw [there] at acted
      cases acted
    · simp [ReceiptOnce.next, there, ReceiptOnce.Party.inside, view_move was, ends,
        ReceiptOnce.State.move]
  · rw [if_neg own] at here ends
    exact shows_of_same_party was (ends.trans here.symm)

/-- A look at the log is the look of a party, or of another month. -/
theorem lookUp_shows {target : Target} (meets : Alone w (.lookUp r))
    (was : w.runs[r]? = some (.due target)) :
    Shows pair w (w.move r
      (if w.logged target.pair then .returned (alreadyGenerated target) else .looked target)) := by
  by_cases own : target.pair = pair
  · subst own
    have there : (view target.pair w).party r = .outside := view_party was
    right
    refine ⟨.look r true, ?_, ?_⟩
    · apply ReceiptOnce.parties_forall (· ≠ .acted) (by decide)
      intro other run stands acted
      have unrecorded := (Run.party_eq_acted run).mp acted
      rw [meets target was run (List.mem_of_getElem? stands)] at unrecorded
      cases unrecorded
    · simp only [ReceiptOnce.next, there, ↓reduceIte, Bool.not_true, Bool.or_false,
        Option.some.injEq, view_move was]
      congr 1
      cases logged : w.logged target.pair with
      | false => simp [view, logged, Run.party]
      | true =>
        have own : (alreadyGenerated target).pair = target.pair := rfl
        simp [view, logged, Run.party, own]
  · apply shows_of_same_party was
    split
    · exact if_neg own
    · exact if_neg own

/-- A call that commits is the act of a party, or commits no drafts of the month. -/
theorem propose_shows {target : Target} {now : Timestamp} {message : String} {db : Database}
    {drafts : List (FreshItem × ProposedItem)} (meets : Alone w (.proposeRange r now drafts message))
    (was : w.runs[r]? = some (.looked target)) :
    Shows pair w { w.move r (.drafted target drafts.length) with
      db := db
      calls := w.calls ++ [⟨target.pair, drafts⟩] } := by
  have after := view_propose pair was (.drafted target drafts.length) db
    ⟨target.pair, drafts⟩
  have stays (same : (Run.drafted target drafts.length).party pair = (Run.looked target).party pair)
      (none : (target.pair = pair && !drafts.isEmpty) = false) :
      Shows pair w { w.move r (.drafted target drafts.length) with
        db := db
        calls := w.calls ++ [⟨target.pair, drafts⟩] } := by
    left
    rw [after, same, ReceiptOnce.State.move_self (view_party was), none]
    rfl
  by_cases own : target.pair = pair
  · cases drafts with
    | nil => exact stays (by simp [Run.party]) (by simp)
    | cons draft rest =>
      subst own
      have there : (view target.pair w).party r = .looked := by
        rw [view_party was]
        exact if_pos rfl
      right
      refine ⟨.act r, ?_, ?_⟩
      · intro other apart
        cases stands : w.runs[other]? with
        | none => simp [view, ReceiptOnce.parties, stands, ReceiptOnce.Party.inside]
        | some run =>
          rw [view_party stands, Run.party_inside]
          exact meets target was (List.cons_ne_nil draft rest) other run stands apart
      · rw [after]
        simp [ReceiptOnce.next, there, Run.party]
  · exact stays (by simp [Run.party, own]) (by simp [own])

/-- A run that comes to its row is a party that writes the receipt, or of another month. -/
theorem record_shows {target : Target} {itemCount : Nat} {now : Timestamp} {message : String}
    {w' : World} (was : w.runs[r]? = some (.drafted target itemCount))
    (taken : next w (.record r now message) = some w') : Shows pair w w' := by
  have after : view pair w' = { (view pair w).move r
      (if target.pair = pair then .done else .outside) with
        receipt := (view pair w).receipt || decide (target.pair = pair) } := by
    simp only [next, was] at taken
    split at taken
    · rename_i logged
      obtain rfl := Option.some.inj taken
      rw [view_move was]
      have kept : (view pair w).receipt =
          ((view pair w).receipt || decide (target.pair = pair)) := by
        by_cases own : target.pair = pair
        · subst own
          simp [view, logged]
        · simp [own]
      exact congrArg (fun receipt => { (view pair w).move r _ with receipt := receipt }) kept
    · obtain rfl := Option.some.inj taken
      exact view_record was _ _
  by_cases own : target.pair = pair
  · have inside : ((view pair w).party r).inside = true := by
      rw [view_party was, Run.party_inside]
      simp [Run.inFlight, own]
    right
    refine ⟨.write r, trivial, ?_⟩
    simp only [ReceiptOnce.next, inside, ↓reduceIte, after, own, decide_true, Bool.or_true]
  · left
    have there : (view pair w).party r = .outside := by
      rw [view_party was]
      exact if_neg own
    rw [after, if_neg own, ReceiptOnce.State.move_self there]
    simp [own]

/-- The step lemma: a step of runs that do not cross shows, of every month, a careful step or
nothing. -/
theorem next_shows (pair : Uuid × String) (w : World) (label : Label) (w' : World)
    (meets : Alone w label) (taken : machine.next w label = some w') : Shows pair w w' := by
  cases label with
  | begin r clientId today =>
    simp only [machine, next] at taken
    split at taken
    · rename_i was
      obtain rfl := Option.some.inj taken
      apply shows_of_same_party was
      unfold begun
      split
      · split <;> rfl
      · rfl
    · cases taken
  | lookUp r =>
    simp only [machine, next] at taken
    split at taken
    · rename_i target was
      obtain rfl := Option.some.inj taken
      exact lookUp_shows meets was
    · cases taken
  | proposeRange r now drafts message =>
    simp only [machine, next] at taken
    split at taken
    · rename_i target was
      split at taken
      · obtain rfl := Option.some.inj taken
        exact propose_shows meets was
      · obtain rfl := Option.some.inj taken
        exact shows_end target was rfl rfl
    · cases taken
  | record r now message =>
    cases place : w.runs[r]? with
    | none => simp [machine, next, place] at taken
    | some run =>
      cases run with
      | drafted target itemCount => exact record_shows place taken
      | _ => simp [machine, next, place] at taken
  | fail r message =>
    simp only [machine, next] at taken
    split at taken
    · rename_i target was
      obtain rfl := Option.some.inj taken
      exact shows_end target was rfl rfl
    · rename_i target itemCount was
      obtain rfl := Option.some.inj taken
      exact shows_end target was (drafted_party (meets _ was)) rfl
    · cases taken
  | crash r =>
    simp only [machine, next] at taken
    split at taken
    · rename_i target was
      obtain rfl := Option.some.inj taken
      exact shows_of_same_party was rfl
    · rename_i target was
      obtain rfl := Option.some.inj taken
      exact shows_end target was rfl rfl
    · rename_i target itemCount was
      obtain rfl := Option.some.inj taken
      exact shows_end target was (drafted_party (meets _ was)) rfl
    · cases taken

/-- Runs that do not cross refine, for every month, an effect with a receipt. -/
def simulation (pair : Uuid × String) :
    Machine.Simulation machine (ReceiptOnce.machine Nat) Alone ReceiptOnce.Careful where
  view := view pair
  invariant _ := True
  start w first := by
    obtain ⟨none, idle⟩ := first
    refine ⟨⟨?_, ?_⟩, trivial⟩
    · simp [view, World.draftsOf, none]
    · apply ReceiptOnce.parties_forall (· = .outside) rfl
      intro r run stands
      rw [idle run (List.mem_of_getElem? stands)]
      rfl
  step w label w' _ meets taken := ⟨trivial, next_shows pair w label w' meets taken⟩

/-- In every state that runs which do not cross lead to, the drafts of one call at most are
committed for a client and a month. -/
theorem draftsOf_le_one {w : World} (reached : machine.Reachable Alone w) (pair : Uuid × String) :
    (w.draftsOf pair).length ≤ 1 :=
  ReceiptOnce.effects_le_one ((simulation pair).reachable reached).1

/-- A day of the month on which a month is due. -/
def sampleToday : Date := ⟨2026, 3, 20, by decide⟩

/-- The next month of the client. -/
def sampleTarget : Target :=
  ⟨2, some "Acme", "2026-04", ⟨2026, 4, 1, by decide⟩, ⟨2026, 4, 30, by decide⟩⟩

/-- One drafted item of the next month. -/
def sampleItem : ProposedItem where
  title := ⟨"Launch", by decide⟩
  eventDate := ⟨2026, 4, 2, by decide⟩
  platform := .instagram
  category := .content
  contentFormat := none
  caption := none
  hashtags := none

/-- Two runs and no row. -/
def twoSweeps : World := ⟨sampleDatabase [], [], [.idle, .idle], []⟩

/-- Of two runs one after the other, the first drafts the month. -/
theorem draftsOf_le_one_twoSweeps :
    ∃ w, machine.Run Alone twoSweeps [.begin 0 2 sampleToday, .lookUp 0,
        .proposeRange 0 1 [(⟨50, 51⟩, sampleItem)] "", .record 0 2 "", .begin 1 2 sampleToday,
        .lookUp 1] w ∧
      w.log.length = 1 ∧ (w.draftsOf (2, "2026-04")).length ≤ 1 := by
  have run : ∃ w, machine.Run Alone twoSweeps [.begin 0 2 sampleToday, .lookUp 0,
      .proposeRange 0 1 [(⟨50, 51⟩, sampleItem)] "", .record 0 2 "", .begin 1 2 sampleToday,
      .lookUp 1] w ∧ w.log.length = 1 := by
    refine ⟨_, .cons trivial rfl (.cons ?_ rfl (.cons ?_ rfl (.cons trivial rfl
      (.cons trivial rfl (.cons ?_ rfl (.nil _)))))), ?_⟩
    · intro target _ run inside
      obtain rfl | rfl : run = begun twoSweeps.db 2 sampleToday ∨ run = .idle := by
        simpa [World.move, twoSweeps] using inside
      · rfl
      · rfl
    · intro target _ _ other run stands apart
      match other, stands with
      | 0, _ => exact absurd rfl apart
      | 1, stands =>
        obtain rfl := Option.some.inj stands
        rfl
    · intro target _ run inside
      have listed : run ∈ [.returned (generated sampleTarget 1), .due sampleTarget] := inside
      simp only [List.mem_cons, List.not_mem_nil, or_false] at listed
      obtain rfl | rfl := listed
      · rfl
      · rfl
    · rfl
  obtain ⟨w, run, recorded⟩ := run
  exact ⟨w, run, recorded, draftsOf_le_one ⟨twoSweeps, _, ⟨rfl, by simp [twoSweeps]⟩, run⟩ _⟩

/-- Two runs look the month up before either drafts it. -/
def crossingSweeps : List Label :=
  [.begin 0 2 sampleToday, .begin 1 2 sampleToday, .lookUp 0, .lookUp 1,
    .proposeRange 0 1 [(⟨50, 51⟩, sampleItem)] "", .proposeRange 1 1 [(⟨60, 61⟩, sampleItem)] "",
    .record 0 2 "", .record 1 2 "UNIQUE constraint failed"]

/-- A run crashes after `propose_range` has committed and before its row; the next tick begins
another run. -/
def crashingSweep : List Label :=
  [.begin 0 2 sampleToday, .lookUp 0, .proposeRange 0 1 [(⟨50, 51⟩, sampleItem)] "", .crash 0,
    .begin 1 2 sampleToday, .lookUp 1, .proposeRange 1 3 [(⟨60, 61⟩, sampleItem)] "",
    .record 1 4 ""]

/-- Runs that cross and a crash before the row each leave the month drafted twice. -/
theorem drafted_twice :
    machine.start twoSweeps ∧ ∀ labels ∈ [crossingSweeps, crashingSweep],
      ∃ w, machine.Run Machine.anyStep twoSweeps labels w ∧
        (w.draftsOf (2, "2026-04")).length = 2 ∧ w.db.tables.events.length = 2 := by
  refine ⟨⟨rfl, by simp [twoSweeps]⟩, ?_⟩
  intro labels listed
  simp only [List.mem_cons, List.not_mem_nil, or_false] at listed
  rcases listed with rfl | rfl
  · exact ⟨_, Machine.run_of_play rfl, rfl, rfl⟩
  · exact ⟨_, Machine.run_of_play rfl, rfl, rfl⟩

end MarketingOS.SchedulerService
