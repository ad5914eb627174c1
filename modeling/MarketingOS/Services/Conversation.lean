import MarketingOS.Services.Intelligence.History
import MarketingOS.Services.Onboarding

/-!
# Conversations

The shared inbox of a client: threads, their messages, folders and stars. Nothing of it reaches the
intelligence layer by itself; one operation promotes one message, and leaves a build for it.
-/
namespace MarketingOS

/-! ## Rows -/

/-- `ConversationSource` -/
inductive ConversationSource where
  | email
  | sms
  | whatsapp
  | instagram
  | facebook
  | webform
  | internal
deriving DecidableEq, Repr

/-- `MessageFolder` -/
inductive MessageFolder where
  | inbox
  | sent
  | drafts
  | archive
  | spam
  | trash
deriving DecidableEq, Repr

/-- `RecipientKind` — `primary` is `to`. -/
inductive RecipientKind where
  | primary
  | cc
  | bcc
deriving DecidableEq, Repr

/-- `MessageRecipient` -/
structure MessageRecipient where
  email : String
  kind : RecipientKind
deriving DecidableEq

/-- `Message` of the inbox. -/
structure InboxMessage where
  id : Uuid
  senderUserId : Option Uuid
  senderEmail : Option String
  folder : MessageFolder
  category : Option String
  isStarred : Bool
  body : String
  addedToSourceAt : Option Timestamp
  knowledgeSourceId : Option Uuid
  recipients : List MessageRecipient
deriving DecidableEq

/-- `Conversation`, with the messages it owns. -/
structure Conversation where
  id : Uuid
  clientId : Uuid
  subject : Option String
  source : ConversationSource
  isRead : Bool
  lastMessageAt : Option Timestamp
  messages : List InboxMessage
deriving DecidableEq

/-- The text columns of a conversation and its messages. -/
def Conversation.texts (conv : Conversation) : List (Option String) :=
  conv.subject :: conv.messages.flatMap fun m =>
    [m.senderEmail, m.category, some m.body] ++ m.recipients.map fun r => some r.email

/-- What is committed of the inputs of the intelligence layer. -/
structure KnowledgeTables extends OnboardingTables where
  conversations : List Conversation
  sources : List KnowledgeSource

namespace KnowledgeTables

/-- The constraints a commit checks. -/
def Consistent (t : KnowledgeTables) : Prop :=
  t.toOnboardingTables.Consistent ∧
    (∀ conv ∈ t.conversations, ∀ text ∈ conv.texts, ClientRecord.holdsText text = true) ∧
    (t.conversations.map Conversation.id).Nodup ∧
    ((t.conversations.flatMap Conversation.messages).map InboxMessage.id).Nodup ∧
    (t.sources.map KnowledgeSource.id).Nodup

instance (t : KnowledgeTables) : Decidable t.Consistent := by
  unfold Consistent
  infer_instance

end KnowledgeTables

/-! ## Requests -/

/-- `RecipientIn` -/
structure RecipientIn where
  email : BoundedText 0 255
  kind : RecipientKind

/-- `MessageCreate` -/
structure MessageCreate where
  body : BoundedText 1 maxText
  folder : MessageFolder
  category : Option (BoundedText 0 40)
  recipients : { recipients : List RecipientIn // recipients.length ≤ 100 }

/-- `ConversationCreate` — a thread with its first message. -/
structure ConversationCreate where
  subject : Option (BoundedText 0 255)
  source : ConversationSource
  message : MessageCreate

/-- `ConversationUpdate` -/
structure ConversationUpdate where
  isRead : Patch Bool

/-- `MessageUpdate` -/
structure MessageUpdate where
  folder : Patch MessageFolder
  isStarred : Patch Bool
  category : Patch (BoundedText 0 40)

namespace ConversationService

variable (t : KnowledgeTables) (clientId conversationId messageId : Uuid)

/-- `ConversationRepository.get_for_client` -/
def find : Option Conversation :=
  (Table.get Conversation.id t.conversations conversationId).filter fun conv =>
    conv.clientId = clientId

/-- `get_conversation` -/
def getConversation : Outcome Conversation :=
  match find t clientId conversationId with
  | none => notFound "Conversation not found."
  | some conv => .ok conv

/-- `ConversationRepository.get_message` -/
def getMessage : Option (Conversation × InboxMessage) :=
  (find t clientId conversationId).bind fun conv =>
    (Table.get InboxMessage.id conv.messages messageId).map fun message => (conv, message)

/-- A commit; one the database refuses is rolled back and raises. -/
def commit (before after : KnowledgeTables) : Outcome Unit × KnowledgeTables :=
  if after.Consistent then (.ok (), after) else (raised .dbapiError, before)

/-- The tables after a write to one conversation. -/
def written (write : Conversation → Conversation) : KnowledgeTables :=
  { t with conversations := Table.modify Conversation.id conversationId write t.conversations }

/-- A write to one message of a conversation. -/
def onMessage (write : InboxMessage → InboxMessage) (conv : Conversation) : Conversation :=
  { conv with messages := Table.modify InboxMessage.id messageId write conv.messages }

/-- `_recipients` -/
def recipients (data : List RecipientIn) : List MessageRecipient :=
  data.map fun r => ⟨r.email.val, r.kind⟩

/-- A message that is composed here. -/
def composed (messageId senderUserId : Uuid) (data : MessageCreate) : InboxMessage where
  id := messageId
  senderUserId := some senderUserId
  senderEmail := none
  folder := data.folder
  category := data.category.map Subtype.val
  isStarred := false
  body := data.body.val
  addedToSourceAt := none
  knowledgeSourceId := none
  recipients := recipients data.recipients.val

/-- `create_conversation` -/
def createConversation (tick : Tick) (messageId senderUserId : Uuid) (data : ConversationCreate) :
    Outcome Conversation × KnowledgeTables :=
  let conv : Conversation :=
    { id := tick.rowId
      clientId
      subject := data.subject.map Subtype.val
      source := data.source
      isRead := true
      lastMessageAt := some tick.now
      messages := [composed messageId senderUserId data.message] }
  let (saved, t) := commit t { t with conversations := t.conversations ++ [conv] }
  (saved.map fun _ => conv, t)

/-- `add_message` -/
def addMessage (tick : Tick) (senderUserId : Uuid) (data : MessageCreate) :
    Outcome InboxMessage × KnowledgeTables :=
  match getConversation t clientId conversationId with
  | .error exc => (.error exc, t)
  | .ok _ =>
    let message := composed tick.rowId senderUserId data
    let (saved, t) := commit t (written t conversationId fun conv =>
      { conv with
        messages := conv.messages ++ [message]
        lastMessageAt := some tick.now
        isRead := true })
    (saved.map fun _ => message, t)

/-- `update_conversation` -/
def updateConversation (data : ConversationUpdate) : Outcome Conversation × KnowledgeTables :=
  match getConversation t clientId conversationId with
  | .error exc => (.error exc, t)
  | .ok conv =>
    let write := fun conv : Conversation =>
      { conv with isRead := data.isRead.read.getD conv.isRead }
    let (saved, t) := commit t (written t conversationId write)
    (saved.map fun _ => write conv, t)

/-- The assignments of `update_message`. -/
def MessageUpdate.apply (data : MessageUpdate) (message : InboxMessage) : InboxMessage :=
  { message with
    folder := data.folder.read.getD message.folder
    isStarred := data.isStarred.read.getD message.isStarred
    category := data.category.text.onto message.category }

/-- `update_message` -/
def updateMessage (data : MessageUpdate) : Outcome InboxMessage × KnowledgeTables :=
  match getMessage t clientId conversationId messageId with
  | none => (notFound "Message not found.", t)
  | some (_, message) =>
    let (saved, t) := commit t
      (written t conversationId (onMessage messageId (MessageUpdate.apply data)))
    (saved.map fun _ => MessageUpdate.apply data message, t)

/-- A message stamped as promoted. -/
def stamped (tick : Tick) (message : InboxMessage) : InboxMessage :=
  { message with addedToSourceAt := some tick.now, knowledgeSourceId := some tick.rowId }

/-- What a build reads of a promoted message. -/
def input (message : InboxMessage) : Message := ⟨message.id, message.senderEmail, message.body⟩

/-- What a promotion flushes: the stamp, the pending source and the build. -/
def promoted (env : Environment) (tick : Tick) (conv : Conversation) (message : InboxMessage) :
    KnowledgeTables where
  clients := t.clients
  intelJobs := JobQueue.enqueue env tick clientId .incremental (some ["conversation"]) 5 t.intelJobs
  conversations :=
    (written t conv.id (onMessage message.id (stamped tick))).conversations
  sources := t.sources ++
    [Intelligence.promotedSource clientId tick.rowId conv.subject (input message)]

/-- `add_message_to_source` — a promoted message is not promoted again. -/
def addMessageToSource (env : Environment) (tick : Tick) : Outcome InboxMessage × KnowledgeTables :=
  match getMessage t clientId conversationId messageId with
  | none => (notFound "Message not found.", t)
  | some (conv, message) =>
    if message.addedToSourceAt.isSome then (.ok message, t)
    else
      let (saved, t) := commit t (promoted t clientId env tick conv message)
      (saved.map fun _ => stamped tick message, t)

/-- `delete_conversation` — takes its messages along, and leaves no build. -/
def deleteConversation : Outcome Unit × KnowledgeTables :=
  match getConversation t clientId conversationId with
  | .error exc => (.error exc, t)
  | .ok _ =>
    commit t { t with
      conversations := Table.remove Conversation.id conversationId t.conversations }

end ConversationService

end MarketingOS
