import MarketingOS.Base.Machine
import MarketingOS.Models.AutoPlanGenerationLog
import MarketingOS.Services.PlanGeneration

/-!
# Scheduler service

The automatic month-ahead plan generation: any number of sweeps, by the scheduler process and by
hand, make one run for each client, on a session of its own. A run looks the log row up, lets
`propose_range` draft the month, which commits by itself, and inserts the log row. Nothing is
locked in between, and a run may crash between any two of these.
-/
namespace MarketingOS.SchedulerService

open PlanGenerationService (FreshItem)

/-- `_DUE_DAY_OF_MONTH` -/
def dueDayOfMonth : Nat := 15

/-- `auto_generation_due`, of the client's local day. -/
def autoGenerationDue (today : Date) : Bool := dueDayOfMonth ≤ today.day

/-- `_next_month_range` — the month after a day, with its first and its last day; the year after
9999 is a `ValueError`. -/
def nextMonthRange (today : Date) : Option (String × Date × Date) := do
  let (year, month) := if today.month = 12 then (today.year + 1, 1) else (today.year, today.month + 1)
  let first ← Date.ofNumbers year month 1
  let last ← Date.ofNumbers year month (daysInMonth year month)
  some (String.ofList (Digits.write 10 4 year ++ '-' :: Digits.write 10 2 month), first, last)

/-- What one run drafts. -/
structure Target where
  clientId : Uuid
  clientName : Option String
  period : String
  startDate : Date
  endDate : Date
deriving DecidableEq

/-- The client and the month of a target. -/
def Target.pair (target : Target) : Uuid × String := (target.clientId, target.period)

/-- `AutoPlanGenerationRow` -/
structure AutoPlanGenerationRow where
  clientId : Uuid
  clientName : Option String
  period : String
  status : String
  itemCount : Nat
  error : Option String
deriving DecidableEq

/-- The row of a run that found the month in the log. -/
def alreadyGenerated (target : Target) : AutoPlanGenerationRow :=
  ⟨target.clientId, target.clientName, target.period, "already_generated", 0, none⟩

/-- The row of a run that raised. -/
def failed (target : Target) (message : String) : AutoPlanGenerationRow :=
  ⟨target.clientId, target.clientName, target.period, "failed", 0, some (clip 300 message)⟩

/-- The row of a run that drafted the month. -/
def generated (target : Target) (itemCount : Nat) : AutoPlanGenerationRow :=
  ⟨target.clientId, target.clientName, target.period, "generated", itemCount, none⟩

/-- How far one run has come. -/
inductive Run where
  | idle
  /-- Over before its look: not due, or crashed. -/
  | left
  | due (target : Target)
  | looked (target : Target)
  /-- `propose_range` has committed its drafts. -/
  | drafted (target : Target) (itemCount : Nat)
  | returned (row : AutoPlanGenerationRow)
  | crashed (target : Target)
deriving DecidableEq

/-- A call of `propose_range` that committed: the client and the month, and its drafts. -/
structure Call where
  pair : Uuid × String
  drafts : List (FreshItem × ProposedItem)

/-- What is committed, how far every run is, and the calls that have committed. -/
structure World where
  db : Database
  log : List AutoPlanGenerationLog
  runs : List Run
  calls : List Call

/-- The world after a run has moved. -/
def World.move (w : World) (r : Nat) (run : Run) : World := { w with runs := w.runs.set r run }

/-- `AutoPlanGenerationLogRepository.exists` -/
def World.logged (w : World) (pair : Uuid × String) : Bool :=
  Table.has AutoPlanGenerationLog.pair w.log pair

/-- One step of one run. -/
inductive Label where
  /-- `_one` is called for a client whose local day is given. -/
  | begin (r : Nat) (clientId : Uuid) (today : Date)
  | lookUp (r : Nat)
  /-- `propose_range`, with what the agent drafts and the text of an exception it raises. -/
  | proposeRange (r : Nat) (now : Timestamp) (drafts : List (FreshItem × ProposedItem))
    (message : String)
  /-- Insert the log row and commit, with the text of the `IntegrityError`. -/
  | record (r : Nat) (now : Timestamp) (message : String)
  /-- The agent, the insert or the commit raises for another reason. -/
  | fail (r : Nat) (message : String)
  | crash (r : Nat)

/-- Where a run stands after its due check. -/
def begun (db : Database) (clientId : Uuid) (today : Date) : Run :=
  if autoGenerationDue today then
    match db.tables.getClient clientId, nextMonthRange today with
    | some client, some (period, startDate, endDate) =>
      .due ⟨clientId, client.name, period, startDate, endDate⟩
    | _, _ => .left
  else .left

/-- The step function. -/
def next (w : World) : Label → Option World
  | .begin r clientId today =>
    match w.runs[r]? with
    | some .idle => some (w.move r (begun w.db clientId today))
    | _ => none
  | .lookUp r =>
    match w.runs[r]? with
    | some (.due target) =>
      some (w.move r
        (if w.logged target.pair then .returned (alreadyGenerated target) else .looked target))
    | _ => none
  | .proposeRange r now drafts message =>
    match w.runs[r]? with
    | some (.looked target) =>
      match PlanGenerationService.proposeRange now w.db target.clientId target.startDate
          target.endDate none none drafts with
      | .ok db =>
        some { w.move r (.drafted target drafts.length) with
          db := db
          calls := w.calls ++ [⟨target.pair, drafts⟩] }
      | .error _ => some (w.move r (.returned (failed target message)))
    | _ => none
  | .record r now message =>
    match w.runs[r]? with
    | some (.drafted target itemCount) =>
      if w.logged target.pair then some (w.move r (.returned (failed target message)))
      else
        some { w.move r (.returned (generated target itemCount)) with
          log := w.log ++ [⟨target.clientId, target.period, itemCount, now⟩] }
    | _ => none
  | .fail r message =>
    match w.runs[r]? with
    | some (.looked target) | some (.drafted target _) =>
      some (w.move r (.returned (failed target message)))
    | _ => none
  | .crash r =>
    match w.runs[r]? with
    | some (.due _) => some (w.move r .left)
    | some (.looked target) | some (.drafted target _) => some (w.move r (.crashed target))
    | _ => none

/-- The runs, before any of them has begun. -/
def machine : Machine World Label where
  start w := w.calls = [] ∧ ∀ run ∈ w.runs, run = .idle
  next := next

end MarketingOS.SchedulerService
