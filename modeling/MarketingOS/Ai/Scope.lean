import Mathlib.Data.List.Infix
import MarketingOS.Core.Text
import MarketingOS.Repositories.Plan

/-!
# The scope of a tool call

Which tasks a search of the assistant finds, and which a bulk call acts on. The arguments are what
the model wrote: texts that may name nothing.
-/
namespace MarketingOS

/-- How the texts of a call are read; nothing stands for a `ValueError`. -/
structure Readers where
  tables : TextTables
  /-- `date.fromisoformat(text)` -/
  fromisoformat : String → Option Date
  /-- `uuid.UUID(text)` -/
  parseUuid : String → Option Uuid

/-- What a call raises. -/
inductive ScopeError where
  /-- A `ValueError` of a text that names nothing. -/
  | unreadable
  | oneEdge
  | inverted
  | noScope
  | overLimit (count : Nat)
  /-- An `AttributeError` of a task without a title. -/
  | untitled
deriving DecidableEq

namespace Handlers

/-- `_MAX_SEARCH_RESULTS` -/
def maxSearchResults : Int := 10

/-- `_MAX_BULK_MATCHES` -/
def maxBulkMatches : Nat := 100

/-- The text of a `ValueError` of the tools. -/
def errorText : ScopeError → Option String
  | .oneEdge => some "Provide both start_date and end_date together for a range."
  | .inverted => some "end_date must be on or after start_date."
  | .noScope => some "Provide either task_ids or both start_date and end_date."
  | .overLimit count => some (s!"That scope matches {count} tasks, more than the " ++
      s!"{maxBulkMatches}-task bulk-operation limit — narrow the date range or add a " ++
      "query/status/assignee filter, then try again.")
  | .unreadable => none
  | .untitled => none

/-- The filters a search and a bulk call share. -/
structure TaskFilters where
  status : Option String := none
  query : Option String := none
  startDate : Option String := none
  endDate : Option String := none
  assigneeId : Option String := none
  assignedOnly : Bool := false
  includeArchived : Bool := false

/-- A text that is there and not empty. -/
def given (text : Option String) : Option String := text.filter fun text => text ≠ ""

/-- A value, or the `ValueError` of a text that names none. -/
def orUnreadable {α : Type} : Option α → Except ScopeError α
  | none => .error .unreadable
  | some value => .ok value

variable (readers : Readers)

/-- `_resolve_date_window` -/
def resolveDateWindow (onDate startDate endDate : Option String) :
    Except ScopeError (Option (Date × Date)) :=
  match given onDate with
  | some day => do
    let day ← orUnreadable (readers.fromisoformat day)
    pure (some (day, day))
  | none =>
    match given startDate, given endDate with
    | none, none => .ok none
    | some start, some finish => do
      let start ← orUnreadable (readers.fromisoformat start)
      let finish ← orUnreadable (readers.fromisoformat finish)
      if finish < start then .error .inverted else pure (some (start, finish))
    | _, _ => .error .oneEdge

/-- `TaskStatus(status) if status else None` -/
def readStatus (status : Option String) : Except ScopeError (Option TaskStatus) :=
  match given status with
  | none => .ok none
  | some name => do
    let status ← orUnreadable (Enumeration.ofValue name)
    pure (some status)

/-- Whether a title holds a query, in lower case. -/
def holds (query title : String) : Bool :=
  decide ((readers.tables.lower query).toList <:+: (readers.tables.lower title).toList)

/-- `[r for r in rows if q in r.title.lower()]`, when there is a query. -/
def applyTitleFilter (query : Option String) (rows : List PlanTask) :
    Except ScopeError (List PlanTask) :=
  match given query with
  | none => .ok rows
  | some query =>
    if rows.any fun row => row.title.isNone then .error .untitled
    else .ok (rows.filter fun row => row.title.any (holds readers query))

/-- `_apply_assignee_filter` -/
def applyAssigneeFilter (assigneeId : Option String) (assignedOnly : Bool)
    (rows : List PlanTask) : Except ScopeError (List PlanTask) :=
  match given assigneeId with
  | some text => do
    let wanted ← orUnreadable (readers.parseUuid text)
    pure (rows.filter fun row => row.assigneeId = some wanted)
  | none =>
    if assignedOnly then .ok (rows.filter fun row => row.assigneeId.isSome) else .ok rows

/-- The query of a search or of a bulk call: one row more than a bulk call may act on. -/
def taskQuery (status : Option TaskStatus) (window : Option (Date × Date))
    (includeUndated includeArchived : Bool) : TaskQuery where
  status := status
  start := window.map Prod.fst
  finish := window.map Prod.snd
  includeUndated := includeUndated
  includeArchived := includeArchived
  offset := 0
  limit := some (maxBulkMatches + 1)

/-- `_resolve_bulk_task_ids` -/
def resolveBulkTaskIds (t : Tables) (clientId : Uuid) (taskIds : Option (List String))
    (filters : TaskFilters) : Except ScopeError (List Uuid) :=
  match taskIds with
  | some (first :: rest) => (first :: rest).mapM fun text => orUnreadable (readers.parseUuid text)
  | _ => do
    let window ← resolveDateWindow readers none filters.startDate filters.endDate
    match window with
    | none => .error .noScope
    | some window => do
      let status ← readStatus filters.status
      let (rows, _) := t.listTasks clientId
        (taskQuery status (some window) false filters.includeArchived)
      let rows ← applyTitleFilter readers filters.query rows
      let rows ← applyAssigneeFilter readers filters.assigneeId filters.assignedOnly rows
      if maxBulkMatches < rows.length then .error (.overLimit rows.length)
      else pure (rows.map PlanTask.id)

/-- `rows[:limit]` -/
def upTo (limit : Int) (rows : List PlanTask) : List PlanTask :=
  if 0 ≤ limit then rows.take limit.toNat else rows.take (rows.length - limit.natAbs)

/-- What `search_plan_tasks` returns. -/
structure TaskSearch where
  totalMatching : Nat
  tasks : List PlanTask

/-- `search_plan_tasks` — `tasks` are the rows the briefs are made of. -/
def searchPlanTasks (t : Tables) (clientId : Uuid) (onDate : Option String)
    (filters : TaskFilters) (limit : Int) : Except ScopeError TaskSearch := do
  let window ← resolveDateWindow readers onDate filters.startDate filters.endDate
  let status ← readStatus filters.status
  let (rows, total) := t.listTasks clientId
    (taskQuery status window window.isNone filters.includeArchived)
  let rows ← applyTitleFilter readers filters.query rows
  let rows ← applyAssigneeFilter readers filters.assigneeId filters.assignedOnly rows
  let narrowed := (given filters.query).isSome || window.isSome ||
    (given filters.assigneeId).isSome || filters.assignedOnly
  pure ⟨if narrowed then rows.length else total, upTo (min limit maxSearchResults) rows⟩

end Handlers

end MarketingOS
