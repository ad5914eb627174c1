import MarketingOS.Services.Compliance
import MarketingOS.Services.Conversation

/-!
# The inputs of the intelligence layer

Every operation that writes what a build reads of a client: the onboarding wizard, the edits of a
client and of its brand, the compliance register and the inbox. Each is one transaction, after the
client of its path was found.
-/
namespace MarketingOS

namespace KnowledgeTables

/-- The messages of a conversation of a client that a build reads. -/
def promotedOf (clientId : Uuid) (conv : Conversation) : List Message :=
  if conv.clientId = clientId then
    (conv.messages.filter fun m => m.addedToSourceAt.isSome).map ConversationService.input
  else []

/-- `_promoted_messages` -/
def promotedMessages (t : KnowledgeTables) (clientId : Uuid) : List Message :=
  t.conversations.flatMap (promotedOf clientId)

/-- What a build reads of a client with these promoted messages. -/
def inputsOf (record : ClientRecord) (promoted : List Message) : ClientInputs where
  client := record.client
  goals := record.goals
  complianceEntries := record.complianceEntries.map RegisterEntry.entry
  contacts := record.contacts
  documents := record.documents
  promoted := promoted

/-- What a build reads of a client. -/
def inputs (t : KnowledgeTables) (clientId : Uuid) : Option ClientInputs :=
  (t.get clientId).map fun record => inputsOf record (t.promotedMessages clientId)

/-- A build of the client is queued. -/
def BuildQueued (t : KnowledgeTables) (clientId : Uuid) : Prop :=
  ∃ job ∈ t.intelJobs, job.clientId = clientId ∧ job.status = .queued

instance (t : KnowledgeTables) (clientId : Uuid) : Decidable (t.BuildQueued clientId) :=
  inferInstanceAs (Decidable (∃ job ∈ t.intelJobs, job.clientId = clientId ∧ job.status = .queued))

end KnowledgeTables

/-- A write to the client of the path. -/
inductive ClientWrite (env : Environment) where
  | updateStep (data : OnboardingStepUpdate env)
  | addDocuments (docId : Nat → Uuid) (data : DocumentsRequest)
  | removeDocument (documentId : Uuid)
  | complete
  | updateClient (data : ClientUpdate env)
  | updateBrand (data : BrandUpdate)
  | createEntry (data : ComplianceEntryCreate)
  | updateEntry (entryId : Uuid) (data : ComplianceEntryUpdate)
  | deleteEntry (entryId : Uuid)
  | sync

/-- A write to the inbox of the client of the path. -/
inductive InboxWrite where
  | createConversation (messageId senderUserId : Uuid) (data : ConversationCreate)
  | addMessage (conversationId senderUserId : Uuid) (data : MessageCreate)
  | updateConversation (conversationId : Uuid) (data : ConversationUpdate)
  | updateMessage (conversationId messageId : Uuid) (data : MessageUpdate)
  | addMessageToSource (conversationId messageId : Uuid)
  | deleteConversation (conversationId : Uuid)

/-- One request. -/
inductive KnowledgeRequest (env : Environment) where
  | createDraft (data : OnboardingDraftRequest env)
  | createDraftMinimal (name website : String)
  | onboard (docId : Nat → Uuid) (data : OnboardingRequest env)
  | client (clientId : Uuid) (write : ClientWrite env)
  | inbox (clientId : Uuid) (write : InboxWrite)

namespace KnowledgeRequest

open OnboardingService ClientService ComplianceService ConversationService

variable {env : Environment} (tick : Tick)

/-- The client a request may ask a build for. -/
def target : KnowledgeRequest env → Option Uuid
  | .createDraft _ | .createDraftMinimal .. => none
  | .onboard .. => some tick.rowId
  | .client clientId _ | .inbox clientId _ => some clientId

/-- A result without its value. -/
def done {α τ : Type} (run : Outcome α × τ) : Outcome Unit × τ := (run.1.map fun _ => (), run.2)

/-- A write to a stored client. -/
def runClient (t : OnboardingTables) (record : ClientRecord) :
    ClientWrite env → Outcome Unit × OnboardingTables
  | .updateStep data => done (OnboardingService.updateStep env tick t record data)
  | .addDocuments docId data => done (OnboardingService.addDocuments env tick docId t record data)
  | .removeDocument documentId =>
    done (OnboardingService.removeDocument env tick t record documentId)
  | .complete => done (OnboardingService.complete env tick t record)
  | .updateClient data => done (ClientService.updateClient env tick t record data)
  | .updateBrand data => done (OnboardingService.updateBrand env tick t record data)
  | .createEntry data => done (ComplianceService.createEntry env tick t record data)
  | .updateEntry entryId data => done (ComplianceService.updateEntry env tick t record entryId data)
  | .deleteEntry entryId => ComplianceService.deleteEntry env tick t record entryId
  | .sync => ComplianceService.sync env tick t record

/-- A write to the inbox of a client. -/
def runInbox (env : Environment) (t : KnowledgeTables) (clientId : Uuid) :
    InboxWrite → Outcome Unit × KnowledgeTables
  | .createConversation messageId senderUserId data =>
    done (ConversationService.createConversation t clientId tick messageId senderUserId data)
  | .addMessage conversationId senderUserId data =>
    done (ConversationService.addMessage t clientId conversationId tick senderUserId data)
  | .updateConversation conversationId data =>
    done (ConversationService.updateConversation t clientId conversationId data)
  | .updateMessage conversationId messageId data =>
    done (ConversationService.updateMessage t clientId conversationId messageId data)
  | .addMessageToSource conversationId messageId =>
    done (ConversationService.addMessageToSource t clientId conversationId messageId env tick)
  | .deleteConversation conversationId =>
    ConversationService.deleteConversation t clientId conversationId

/-- The onboarding tables of a run, put back. -/
def within (t : KnowledgeTables) (run : Outcome Unit × OnboardingTables) :
    Outcome Unit × KnowledgeTables :=
  (run.1, { t with toOnboardingTables := run.2 })

/-- A request, of a client that is there. -/
def run (lower : String → String) (t : KnowledgeTables) :
    KnowledgeRequest env → Outcome Unit × KnowledgeTables
  | .createDraft data => within t (done (OnboardingService.createDraft lower tick t.1 data))
  | .createDraftMinimal name website =>
    within t (done (OnboardingService.createDraftMinimal lower tick t.1 name website))
  | .onboard docId data =>
    within t (done (OnboardingService.onboard lower env tick docId t.1 data))
  | .client clientId write =>
    match t.get clientId with
    | none => (notFound "Client not found.", t)
    | some record => within t (runClient tick t.1 record write)
  | .inbox clientId write =>
    match t.get clientId with
    | none => (notFound "Client not found.", t)
    | some _ => runInbox tick env t clientId write

end KnowledgeRequest

end MarketingOS
