import MarketingOS.Services.Plan

/-!
# Plan generation

The `PlanGenerationService` writes: a batch of drafted calendar items with their tasks, and the
review of an item by assigning, rejecting, approving or regenerating it. What the agent drafts
is an argument, with the bounds its parser clamps every item to.
-/
namespace MarketingOS

/-- `ProposedItem` — one drafted item, validated and clamped. -/
structure ProposedItem where
  title : BoundedText 1 200
  eventDate : Date
  platform : SocialPlatform
  category : TaskCategory
  contentFormat : Option (BoundedText 1 30)
  caption : Option String
  hashtags : Option String
deriving DecidableEq

/-- The post of a drafted item. -/
def ProposedItem.post (item : ProposedItem) : EventPost :=
  ⟨item.caption, item.hashtags, item.contentFormat.map Subtype.val⟩

/-- `time(9, 0)`. -/
def nineOClock : Time := ⟨9 * 3600 * 1000000, none, by decide, by simp⟩

namespace PlanGenerationService

/-- The identifiers `uuid4` gives the event and the task of one item. -/
structure FreshItem where
  eventId : Uuid
  taskId : Uuid

/-- The calendar item of a draft. -/
def draftEvent (fresh : FreshItem) (clientId : Uuid) (createdBy : Option Uuid)
    (item : ProposedItem) : MarketingEvent where
  id := fresh.eventId
  clientId := clientId
  title := item.title.val
  type := .content
  platform := item.platform
  eventDate := item.eventDate
  eventTime := nineOClock
  stage := .draft
  approvalStatus := .pending
  approvedBy := none
  approvalNote := none
  createdBy := createdBy
  post := some item.post
  activity := []

/-- The task of a draft. -/
def draftTask (now : Timestamp) (fresh : FreshItem) (clientId : Uuid)
    (createdBy assigneeId : Option Uuid) (item : ProposedItem) : PlanTask where
  id := fresh.taskId
  clientId := clientId
  title := some item.title.val
  description := item.caption
  requirements := none
  category := some item.category
  status := some .todo
  priority := some .medium
  assigneeId := assigneeId
  eventId := some fresh.eventId
  startDate := some item.eventDate
  dueDate := some item.eventDate
  startTime := none
  endTime := none
  createdBy := createdBy
  archived := some false
  createdAt := now
  updatedAt := now

/-- The loop of `propose_range`: each item's event is flushed before its task refers to it. -/
def addDrafts (now : Timestamp) (clientId : Uuid) (createdBy assigneeId : Option Uuid) :
    Tables → List (FreshItem × ProposedItem) → Outcome Tables
  | t, [] => .ok t
  | t, (fresh, item) :: rest => do
    let t ← flush { t with events := t.events ++ [draftEvent fresh clientId createdBy item] }
    let t ← flush { t with
      planTasks := t.planTasks ++ [draftTask now fresh clientId createdBy assigneeId item] }
    addDrafts now clientId createdBy assigneeId t rest

/-- `propose_range`, with what the agent drafted for it. -/
def proposeRange (now : Timestamp) (db : Database) (clientId : Uuid) (startDate endDate : Date)
    (createdBy assigneeId : Option Uuid) (drafts : List (FreshItem × ProposedItem)) :
    Outcome Database :=
  if endDate < startDate then badRequest "End date must be on or after the start date."
  else do
    let t ← addDrafts now clientId createdBy assigneeId db.tables drafts
    commit t

/-- A line appended to the history of an event. -/
def logActivity (action note : String) (userId : Uuid) (event : MarketingEvent) : MarketingEvent :=
  { event with activity := event.activity ++ [⟨action, some note, some userId⟩] }

/-- Write to the event a task is linked to, if it has one. -/
def modifyEventOf (t : Tables) (task : PlanTask) (change : MarketingEvent → MarketingEvent) :
    Tables :=
  match task.eventId with
  | none => t
  | some eventId => t.modifyEvent eventId change

/-- What an approval writes on an event. -/
def approveEvent (note : String) (userId : Uuid) (event : MarketingEvent) : MarketingEvent :=
  logActivity "status_change" note userId
    { event with approvalStatus := .approved, approvedBy := some userId, stage := .scheduled }

/-- What a rejection writes on an event. -/
def rejectEvent (prefixed reason : String) (userId : Uuid) (event : MarketingEvent) :
    MarketingEvent :=
  logActivity "status_change" (prefixed ++ reason) userId
    { event with approvalStatus := .rejected, approvalNote := some reason }

/-- What `assign` writes on a task. -/
def assigned (data : PlanGenerationAssign) (task : PlanTask) : PlanTask :=
  { task with
    assigneeId := some data.assigneeId
    priority := data.priority.or task.priority
    dueDate := data.dueDate.or task.dueDate
    startDate := match data.dueDate with
      | none => task.startDate
      | some dueDate => task.startDate.or (some dueDate)
    status := some .inProgress }

/-- Write to a task, moving its `updated_at` when a column changes. -/
def modifyTask (t : Tables) (now : Timestamp) (taskId : Uuid) (change : PlanTask → PlanTask) :
    Tables :=
  t.modifyTask taskId fun row => PlanTask.touch now row (change row)

/-- `assign`, up to its commit. -/
def assign (now : Timestamp) (db : Database) (clientId taskId : Uuid) (data : PlanGenerationAssign)
    (actor : Uuid) : Outcome Database := do
  let task ← PlanService.getTask db.tables clientId taskId
  let t := modifyTask db.tables now taskId (assigned data)
  commit (modifyEventOf t task (approveEvent "approved via assignment" actor))

/-- What a rejection writes on a task. -/
def blocked (task : PlanTask) : PlanTask := { task with status := some .blocked }

/-- `reject`. -/
def reject (now : Timestamp) (db : Database) (clientId taskId : Uuid) (data : PlanGenerationReject)
    (actor : Uuid) : Outcome Database := do
  let task ← PlanService.getTask db.tables clientId taskId
  let t := modifyTask db.tables now taskId blocked
  commit (modifyEventOf t task (rejectEvent "rejected: " data.reason.val actor))

/-- The loop of `approve_batch`. -/
def approveEach (clientId actor : Uuid) : Tables → List Uuid → Outcome Tables
  | t, [] => .ok t
  | t, taskId :: rest => do
    let task ← PlanService.getTask t clientId taskId
    approveEach clientId actor (modifyEventOf t task (approveEvent "approved via chat" actor)) rest

/-- `approve_batch`. -/
def approveBatch (db : Database) (clientId : Uuid) (taskIds : List Uuid) (actor : Uuid) :
    Outcome Database := do
  let t ← approveEach clientId actor db.tables taskIds
  commit t

/-- The loop of `reject_batch`. -/
def rejectEach (now : Timestamp) (clientId : Uuid) (reason : String) (actor : Uuid) :
    Tables → List Uuid → Outcome Tables
  | t, [] => .ok t
  | t, taskId :: rest => do
    let task ← PlanService.getTask t clientId taskId
    let t := modifyTask t now taskId blocked
    rejectEach now clientId reason actor
      (modifyEventOf t task (rejectEvent "rejected via chat: " reason actor)) rest

/-- `reject_batch`. -/
def rejectBatch (now : Timestamp) (db : Database) (clientId : Uuid) (taskIds : List Uuid)
    (reason : String) (actor : Uuid) : Outcome Database := do
  let t ← rejectEach now clientId reason actor db.tables taskIds
  commit t

/-- What `regenerate_item` writes on a task. -/
def redrafted (item : ProposedItem) (task : PlanTask) : PlanTask :=
  { task with
    title := some item.title.val
    description := item.caption
    category := some item.category
    status := some .todo }

/-- What `regenerate_item` writes on the event. -/
def redraftEvent (item : ProposedItem) (reason : String) (actor : Uuid) (event : MarketingEvent) :
    MarketingEvent :=
  logActivity "edit" s!"regenerated: {reason}" actor
    { event with
      title := item.title.val
      platform := item.platform
      stage := .draft
      approvalStatus := .pending
      approvalNote := none
      approvedBy := none
      post := some item.post }

/-- `regenerate_item`, with what the agent drafted for it. -/
def regenerateItem (now : Timestamp) (db : Database) (clientId taskId : Uuid)
    (data : PlanGenerationRegenerate) (item : ProposedItem) (actor : Uuid) : Outcome Database := do
  let task ← PlanService.getTask db.tables clientId taskId
  match task.eventId.bind db.tables.getEvent with
  | none => badRequest "This task has no linked calendar item to regenerate."
  | some _ =>
    let t := modifyTask db.tables now taskId (redrafted item)
    commit (modifyEventOf t task (redraftEvent item data.reason.val actor))

end PlanGenerationService

end MarketingOS
