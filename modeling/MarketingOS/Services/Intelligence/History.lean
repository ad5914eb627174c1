import MarketingOS.Base.Machine
import MarketingOS.Services.Intelligence.Ingestion

/-!
# The history of a client's knowledge

Edits of the client's inputs, interleaved with incremental and full builds. A build is given the
downloads that succeed during it. Identifiers of documents and messages are never used twice.
-/
namespace MarketingOS.Intelligence

/-- A client's inputs and its knowledge sources. -/
structure History where
  inputs : ClientInputs
  sources : List KnowledgeSource

/-- One committed step. -/
inductive HistoryLabel where
  /-- Any edit of onboarding fields, compliance entries and contacts. -/
  | editFields (client : Client) (goals : Option String) (entries : List ComplianceEntry)
      (contacts : List ClientContact)
  | addDocument (doc : Document)
  | renameDocument (id : Uuid) (name : String)
  | removeDocument (id : Uuid)
  /-- `add_message_to_source`, with the subject of the conversation. -/
  | promoteMessage (msg : Message) (sourceId : Uuid) (subject : Option String)
  /-- `delete_conversation`, with the messages it takes along. -/
  | deleteConversation (messages : List Uuid)
  | build (full : Bool) (reachable : String → Bool) (newId : Identity → Uuid)

/-- The source `add_message_to_source` leaves for the next build. -/
def promotedSource (clientId sourceId : Uuid) (subject : Option String) (msg : Message) :
    KnowledgeSource where
  id := sourceId
  clientId := clientId
  sourceType := .note
  refKind := some "message"
  refId := some msg.id
  refKey := some s!"message:{Uuid.print msg.id}"
  label := "Email: " ++ clip 240 (strip (orText subject (orText msg.senderEmail "message")))
  contentHash := none
  extractedText := some msg.body
  charCount := msg.body.length
  status := .pending
  chunks := []

/-- A name that was never used: nothing stands under it and no source is left of it. -/
def Unused (rows : List KnowledgeSource) (name : Identity) : Prop :=
  name ∉ rows.map identity

instance (rows : List KnowledgeSource) (name : Identity) : Decidable (Unused rows name) :=
  inferInstanceAs (Decidable (name ∉ rows.map identity))

/-- The history after one step. -/
def History.next (kit : Toolkit) (h : History) : HistoryLabel → Option History
  | .editFields client goals entries contacts =>
    some { h with inputs := { h.inputs with
      client := { client with id := h.inputs.client.id }
      goals
      complianceEntries := entries
      contacts } }
  | .addDocument doc =>
    if doc.id ∉ h.inputs.documents.map Document.id ∧ Unused h.sources (.document doc.id) then
      some { h with inputs := { h.inputs with documents := h.inputs.documents ++ [doc] } }
    else none
  | .renameDocument id name =>
    some { h with inputs := { h.inputs with
      documents :=
        Table.modify Document.id id (fun doc => { doc with name }) h.inputs.documents } }
  | .removeDocument id =>
    some { h with inputs := { h.inputs with
      documents := Table.remove Document.id id h.inputs.documents } }
  | .promoteMessage msg sourceId subject =>
    if msg.id ∉ h.inputs.promoted.map Message.id ∧ Unused h.sources (.message msg.id) then
      some {
        inputs := { h.inputs with promoted := h.inputs.promoted ++ [msg] }
        sources := h.sources ++ [promotedSource h.inputs.client.id sourceId subject msg] }
    else none
  | .deleteConversation messages =>
    some { h with inputs := { h.inputs with
      promoted := h.inputs.promoted.filter fun msg => msg.id ∉ messages } }
  | .build full reachable newId =>
    some { h with sources := ingest kit full reachable newId h.inputs h.sources }

/-- The histories of a client, from a client without documents, messages and sources. -/
def historyMachine (kit : Toolkit) : Machine History HistoryLabel where
  start h := h.inputs.documents = [] ∧ h.inputs.promoted = [] ∧ h.sources = []
  next := History.next kit

end MarketingOS.Intelligence
