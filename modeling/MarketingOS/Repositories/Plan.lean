import Mathlib.Data.Prod.Lex
import MarketingOS.Base.StableSort
import MarketingOS.Models.Rows

/-!
# The task list of a client

One page of the tasks of a client, and how many there are in all.
-/
namespace MarketingOS

/-- `func.coalesce(first, second)` -/
def coalesceDate (first second : Option Date) : Option Date := first.or second

/-- The first day of a task; a task with one date is on that day. -/
def PlanTask.spanStart (task : PlanTask) : Option Date := coalesceDate task.startDate task.dueDate

/-- The last day of a task. -/
def PlanTask.spanEnd (task : PlanTask) : Option Date := coalesceDate task.dueDate task.startDate

/-- The arguments of `list_for_client`. -/
structure TaskQuery where
  status : Option TaskStatus := none
  category : Option TaskCategory := none
  priority : Option TaskPriority := none
  assigneeId : Option Uuid := none
  start : Option Date := none
  finish : Option Date := none
  includeUndated : Bool := false
  includeArchived : Bool := false
  offset : Nat := 0
  limit : Option Nat := none

namespace TaskQuery

variable (query : TaskQuery)

/-- Whether the query has a window. -/
def windowed : Bool := query.start.isSome || query.finish.isSome

/-- Whether the span of a task overlaps the window; nothing overlaps without a date. -/
def overlaps (task : PlanTask) : Bool :=
  (task.startDate.isSome || task.dueDate.isSome) &&
    (query.finish.all fun finish => task.spanStart.any fun first => decide (first ≤ finish)) &&
    query.start.all fun start => task.spanEnd.any fun last => decide (start ≤ last)

/-- Whether a task is in the window, or in the unscheduled pile beside it. -/
def inWindow (task : PlanTask) : Bool :=
  query.overlaps task ||
    query.includeUndated && task.startDate.isNone && task.dueDate.isNone

/-- The conditions of the query on one row. -/
def selects (clientId : Uuid) (task : PlanTask) : Bool :=
  decide (task.clientId = clientId) &&
    (query.includeArchived || decide (task.archived = some false)) &&
    (query.status.all fun status => decide (task.status = some status)) &&
    (query.category.all fun category => decide (task.category = some category)) &&
    (query.priority.all fun priority => decide (task.priority = some priority)) &&
    (query.assigneeId.all fun assignee => decide (task.assigneeId = some assignee)) &&
    (!query.windowed || query.inWindow task)

/-- Where a task stands in a window: by its first day, and by its identifier on one day. An undated
task comes last. -/
def chronological (task : PlanTask) : Nat ×ₗ Nat :=
  toLex ((task.spanStart.map Date.rank).getD 100000000, task.id.toNat)

/-- The order of the query: chronological in a window, and newest first without one. -/
def order (tasks : List PlanTask) : List PlanTask :=
  if query.windowed then StableSort.sortBy chronological tasks
  else StableSort.sortBy (fun task => -task.createdAt) tasks

/-- The rows the query selects, in its order. -/
def ordered (t : Tables) (clientId : Uuid) : List PlanTask :=
  query.order (t.planTasks.filter (query.selects clientId))

/-- The page of some rows. -/
def page (rows : List PlanTask) : List PlanTask :=
  match query.limit with
  | none => rows.drop query.offset
  | some limit => (rows.drop query.offset).take limit

/-- Ordering keeps the rows. -/
theorem ordered_perm (t : Tables) (clientId : Uuid) :
    (query.ordered t clientId).Perm (t.planTasks.filter (query.selects clientId)) := by
  unfold ordered order
  split
  · exact StableSort.sortBy_perm
  · exact StableSort.sortBy_perm

end TaskQuery

/-- `PlanTaskRepository.list_for_client` — a page, and how many rows there are in all. -/
def Tables.listTasks (t : Tables) (clientId : Uuid) (query : TaskQuery) : List PlanTask × Nat :=
  (query.page (query.ordered t clientId),
    (t.planTasks.filter (query.selects clientId)).length)

end MarketingOS
