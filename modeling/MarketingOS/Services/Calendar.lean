import MarketingOS.Services.PlanGeneration

/-!
# Marketing calendar

The `CalendarService` writes that set the approval columns of an item: its creation and the
decision on it. The columns of an item, its post and its ad that no modelled function reads are
left out of the rows, and of the bodies.
-/
namespace MarketingOS

/-- `EventPostIn` -/
structure EventPostIn where
  caption : Option (BoundedText 0 maxText)
  hashtags : Option (BoundedText 0 maxLongLine)
  contentFormat : Option (BoundedText 0 30)
deriving DecidableEq

/-- `EventCreate` — `stage` is `draft` when it is not sent. -/
structure EventCreate where
  title : BoundedText 1 200
  type : EventType
  platform : SocialPlatform
  eventDate : Date
  eventTime : Time
  stage : EventStage
  post : Option EventPostIn
deriving DecidableEq

/-- `ApprovalDecision` -/
structure ApprovalDecision where
  status : ApprovalStatus
  note : Option (BoundedText 0 maxText)
deriving DecidableEq

namespace CalendarService

open PlanGenerationService (logActivity)

/-- `get_event` -/
def getEvent (t : Tables) (clientId eventId : Uuid) : Outcome MarketingEvent :=
  match t.events.find? fun event => event.id = eventId ∧ event.clientId = clientId with
  | none => notFound "Event not found."
  | some event => .ok event

/-- `_build_post` -/
def buildPost (data : EventPostIn) : EventPost where
  caption := data.caption.map Subtype.val
  hashtags := data.hashtags.map Subtype.val
  contentFormat := data.contentFormat.map Subtype.val

/-- The row `create_event` adds, with the column defaults of `approval_status` and the columns it
does not set. -/
def newEvent (eventId clientId : Uuid) (data : EventCreate) (createdBy : Uuid) :
    MarketingEvent where
  id := eventId
  clientId := clientId
  title := data.title.val
  type := data.type
  platform := data.platform
  eventDate := data.eventDate
  eventTime := data.eventTime.stored
  stage := data.stage
  approvalStatus := .pending
  approvedBy := none
  approvalNote := none
  createdBy := some createdBy
  post := data.post.map buildPost
  activity := [⟨"created", none, some createdBy⟩]

/-- `create_event` — the row is flushed before its activity refers to it. -/
def createEvent (db : Database) (eventId clientId : Uuid) (data : EventCreate) (createdBy : Uuid) :
    Outcome Database := do
  let event := newEvent eventId clientId data createdBy
  let t := db.tables
  let _ ← flush { t with events := t.events ++ [{ event with activity := [] }] }
  commit { t with events := t.events ++ [event] }

/-- The note `decide_approval` logs. -/
def decisionNote (data : ApprovalDecision) : String :=
  let note := (data.note.map Subtype.val).getD ""
  Enumeration.value data.status ++ if note = "" then "" else ": " ++ note

/-- What a decision writes on an event: `approved_by` only carries meaning while it is approved. -/
def decided (data : ApprovalDecision) (actor : Uuid) (event : MarketingEvent) : MarketingEvent :=
  logActivity "status_change" (decisionNote data) actor
    { event with
      approvalStatus := data.status
      approvalNote := data.note.map Subtype.val
      approvedBy := if data.status = .approved then some actor else none }

/-- `decide_approval` -/
def decideApproval (db : Database) (clientId eventId : Uuid) (data : ApprovalDecision)
    (actor : Uuid) : Outcome Database := do
  let event ← getEvent db.tables clientId eventId
  commit (db.tables.modifyEvent event.id (decided data actor))

end CalendarService

end MarketingOS
