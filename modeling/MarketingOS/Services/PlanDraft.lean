import MarketingOS.Base.Machine
import MarketingOS.Services.PlanGeneration
import MarketingOS.Services.Proposal.Execution

/-!
# Plan drafts in a chat

A plan drafted in a chat has a card: the `action` in the metadata of the message, with a status and
the drafted tasks. Approving or rejecting it reads the card, reviews the tasks in one commit and
writes the card in another. Any number of these calls run a step at a time, among the writes of
other users.
-/
namespace MarketingOS

/-- `AiChat`, as far as it is read. -/
structure AiChat where
  id : Uuid
  clientId : Uuid
deriving DecidableEq

/-- `AiChatMessage`, as far as it is read; `metadata` is its `meta` column. -/
structure AiChatMessage where
  id : Uuid
  chatId : Uuid
  metadata : Option (List (String × Json))
deriving DecidableEq

/-- A message is only ever read under its chat. -/
def AiChatMessage.scoped (message : AiChatMessage) : Uuid × Uuid := (message.id, message.chatId)

/-- A chat is only ever read under its client. -/
def AiChat.scoped (chat : AiChat) : Uuid × Uuid := (chat.id, chat.clientId)

/-- `(message.meta or {}).get("action")` -/
def AiChatMessage.action (message : AiChatMessage) : Json :=
  ((message.metadata.getD []).lookup "action").getD .null

namespace PlanDraft

/-- `fields[key] = value` -/
def setField (key : String) (value : Json) : List (String × Json) → List (String × Json)
  | [] => [(key, value)]
  | (name, old) :: rest =>
    if name = key then (key, value) :: rest else (name, old) :: setField key value rest

/-- `uuid.UUID(str(t))` -/
def toUuid : Json → Outcome Uuid
  | .str text => Outcome.ofOption .valueError (Uuid.parse text)
  | .int n => Outcome.ofOption .valueError (Uuid.parse (toString n))
  | _ => raised .valueError

/-- `[uuid.UUID(str(t)) for t in action.get("task_ids") or []]` -/
def taskIds (action : List (String × Json)) : Outcome (List Uuid) := do
  let stored := (action.lookup "task_ids").getD .null
  if Payload.truthy stored then
    let items ← Payload.iterate stored
    items.mapM toUuid
  else pure []

/-- The rows of the chat. -/
structure Chats where
  chats : List AiChat
  messages : List AiChatMessage
deriving DecidableEq

namespace Chats

/-- `AiChatRepository.get_message` -/
def getMessage (t : Chats) (chatId messageId : Uuid) : Option AiChatMessage :=
  Table.get AiChatMessage.scoped t.messages (messageId, chatId)

/-- `_require_chat` -/
def requireChat (t : Chats) (clientId chatId : Uuid) : Outcome AiChat :=
  match Table.get AiChat.scoped t.chats (chatId, clientId) with
  | none => notFound "Chat not found."
  | some chat => .ok chat

/-- `_require_pending_action_message`, without the message it returns beside the tasks. -/
def requirePendingActionMessage (t : Chats) (clientId chatId messageId : Uuid) :
    Outcome (List Uuid) := do
  let _ ← t.requireChat clientId chatId
  match t.getMessage chatId messageId with
  | none => notFound "Plan draft message not found."
  | some message =>
    let action := message.action
    if Payload.truthy action = false then notFound "Plan draft message not found."
    else
      match action with
      | .obj fields =>
        if fields.lookup "status" ≠ some (.str "pending") then
          badRequest "This plan draft has already been resolved."
        else taskIds fields
      | _ => raised .attributeError

/-- What `_set_action_status` writes on a message whose action is no list or text. -/
def withStatus (status : String) (message : AiChatMessage) : AiChatMessage :=
  let action :=
    match message.action with
    | .obj fields => fields
    | _ => []
  { message with
    metadata := some (setField "action" (.obj (setField "status" (.str status) action))
      (message.metadata.getD [])) }

/-- `_set_action_status` -/
def setActionStatus (t : Chats) (messageId : Uuid) (status : String) : Chats :=
  { t with messages := Table.modify AiChatMessage.id messageId (withStatus status) t.messages }

/-- The status on the card of a message. -/
def cardStatus (t : Chats) (chatId messageId : Uuid) : Option Json :=
  (t.getMessage chatId messageId).bind fun message =>
    match message.action with
    | .obj fields => fields.lookup "status"
    | _ => none

end Chats

/-- `approve_plan_draft` or `reject_plan_draft`. -/
inductive Verdict where
  | approve
  | reject (reason : String)
deriving DecidableEq

namespace Verdict

/-- The status the call writes on the card. -/
def status : Verdict → String
  | .approve => "approved"
  | .reject _ => "rejected"

/-- The status the call gives the events. -/
def outcome : Verdict → ApprovalStatus
  | .approve => .approved
  | .reject _ => .rejected

/-- The error a read-only account gets. -/
def readOnlyError : Verdict → String
  | .approve => "Your account has read-only access and cannot approve changes."
  | .reject _ => "Your account has read-only access and cannot reject changes."

/-- `approve_batch` or `reject_batch`. -/
def batch (verdict : Verdict) (now : Timestamp) (db : Database) (clientId : Uuid)
    (taskIds : List Uuid) (actor : Uuid) : Outcome Database :=
  match verdict with
  | .approve => PlanGenerationService.approveBatch db clientId taskIds actor
  | .reject reason => PlanGenerationService.rejectBatch now db clientId taskIds reason actor

end Verdict

/-! ## Concurrent calls -/

/-- The card a run is about: its message, the tasks on it, and the tables it was drafted in. -/
structure Draft where
  clientId : Uuid
  chatId : Uuid
  messageId : Uuid
  taskIds : List Uuid
  origin : Tables

/-- How far one call has come. -/
inductive Call where
  | idle
  /-- The card was not found pending, or not found. -/
  | turnedAway (exc : Exc)
  /-- The card was read as pending. -/
  | admitted (verdict : Verdict) (actor : User) (taskIds : List Uuid)
  /-- The batch raised. -/
  | failed (exc : Exc)
  /-- The batch is committed. -/
  | applied (verdict : Verdict)
  /-- The card is written. -/
  | done (verdict : Verdict)
deriving DecidableEq

/-- What is committed, how far every call is, and the events other users have edited. -/
structure World where
  db : Database
  chats : Chats
  calls : List Call
  edited : List Uuid

/-- A write of another user to an event, which keeps its identifier. -/
structure EventEdit where
  change : MarketingEvent → MarketingEvent
  keeps : ∀ event, (change event).id = event.id

/-- One transactional step. -/
inductive Label where
  /-- A call runs its gate and reads the card. -/
  | read (c : Nat) (verdict : Verdict) (actor : User)
  /-- The batch and its commit. -/
  | apply (c : Nat) (now : Timestamp)
  /-- The card and its commit. -/
  | write (c : Nat)
  /-- Another user deletes a task. -/
  | delete (clientId taskId : Uuid)
  /-- Another user edits an event. -/
  | edit (eventId : Uuid) (edit : EventEdit)

namespace World

/-- The world after a call has moved. -/
def move (w : World) (c : Nat) (call : Call) : World := { w with calls := w.calls.set c call }

end World

variable (draft : Draft)

/-- The first step of a call. -/
def enter (w : World) (verdict : Verdict) (actor : User) : Call :=
  if actor.role = .user then .turnedAway (.app ⟨.forbidden, verdict.readOnlyError⟩)
  else
    match w.chats.requirePendingActionMessage draft.clientId draft.chatId draft.messageId with
    | .ok taskIds => .admitted verdict actor taskIds
    | .error exc => .turnedAway exc

/-- The step function. -/
def next (w : World) : Label → Option World
  | .read c verdict actor =>
    match w.calls[c]? with
    | some .idle => some (w.move c (enter draft w verdict actor))
    | _ => none
  | .apply c now =>
    match w.calls[c]? with
    | some (.admitted verdict actor taskIds) =>
      match verdict.batch now w.db draft.clientId taskIds actor.id with
      | .ok db => some { w.move c (.applied verdict) with db }
      | .error exc => some (w.move c (.failed exc))
    | _ => none
  | .write c =>
    match w.calls[c]? with
    | some (.applied verdict) =>
      some { w.move c (.done verdict) with
        chats := w.chats.setActionStatus draft.messageId verdict.status }
    | _ => none
  | .delete clientId taskId =>
    match PlanService.deleteTask w.db clientId taskId with
    | .ok db => some { w with db }
    | .error _ => none
  | .edit eventId edit =>
    match commit (w.db.tables.modifyEvent eventId edit.change) with
    | .ok db => some { w with db, edited := w.edited ++ [eventId] }
    | .error _ => none

/-- The events the tasks of the draft are linked to. -/
def drafted : List Uuid :=
  draft.taskIds.filterMap fun taskId =>
    (draft.origin.getTask draft.clientId taskId).bind PlanTask.eventId

/-- A draft nobody has reviewed: its card is pending, with its tasks, and every call is idle. -/
def Start (w : World) : Prop :=
  (∃ message fields, w.chats.getMessage draft.chatId draft.messageId = some message ∧
    message.action = .obj fields ∧
    fields.lookup "status" = some (.str "pending") ∧ taskIds fields = .ok draft.taskIds) ∧
  w.db.tables = draft.origin ∧ ∀ call ∈ w.calls, call = .idle

/-- The calls of one card, a step at a time. -/
def machine : Machine World Label where
  start := Start draft
  next := next draft

end PlanDraft

end MarketingOS
