import MarketingOS.Models.Intelligence
import MarketingOS.Schemas.Common

/-!
# Ingestion service

Every client input becomes a hashed knowledge source: onboarding field groups, documents and
promoted messages. A source whose hash is unchanged is skipped unless the build is a full one;
a changed or new one is loaded again and flagged for chunking. Text extraction, chunking,
embedding, the digest and the content of the storage are given; a build is also given which
downloads succeed.
-/
namespace MarketingOS.Intelligence

/-- `Chunk` of the chunking service. -/
structure Chunk where
  ordinal : Nat
  text : String
deriving DecidableEq

/-- What a build calls, each a function of its input. -/
structure Toolkit where
  /-- `extract_text(data, mime_type, filename)` — text and status. -/
  extractText : List UInt8 → Option String → String → String × SourceStatus
  /-- What the storage holds under a key. -/
  object : String → Option (List UInt8)
  /-- `ChunkingService.chunk` -/
  chunk : String → List Chunk
  /-- `EmbeddingClient.embed` -/
  embed : List String → List Embedding
  /-- `_sha` -/
  sha : String → String
  /-- `max_document_chars` -/
  maxDocumentChars : Nat

/-- A toolkit under which every file holds one text, digested to itself. -/
def Toolkit.plain : Toolkit where
  extractText _ _ _ := ("No stock photos.", .extracted)
  object _ := some []
  chunk text := [⟨0, text⟩]
  embed texts := texts.map fun _ => [1]
  sha := id
  maxDocumentChars := 100

/-! ## Onboarding field groups -/

/-- `value or default` -/
def orText (value : Option String) (default : String) : String :=
  if value.getD "" = "" then default else value.getD ""

/-- `(value or "").strip()` is not empty. -/
def filled (value : Option String) : Bool := strip (value.getD "") ≠ ""

/-- `_lines` — the labelled values that are filled. -/
def lines (pairs : List (String × Option String)) : String :=
  "\n".intercalate ((pairs.filter fun pair => filled pair.2).map fun pair =>
    pair.1 ++ ": " ++ pair.2.getD "")

/-- A group that is rendered when it has something to say. -/
def group (key : String) (present : Bool) (text : String) : Option (String × String) :=
  if present then some (key, text) else none

/-- The brand group before it is stripped. -/
def brandParts (client : Client) : String :=
  let colors := ", ".intercalate (client.brandColors.map fun c =>
    c.hex ++ (if c.label.getD "" = "" then "" else " (" ++ c.label.getD "" ++ ")"))
  let fonts := ", ".intercalate (client.brandFonts.map BrandFont.family)
  lines [("About the brand", client.aboutBrand), ("Brand voice", client.brandVoice),
      ("Extracted brand theme", client.brandExtracted),
      ("Color guidelines", client.colorGuidelines)] ++
    (if colors = "" then "" else s!"\nBrand colors: {colors}") ++
    (if fonts = "" then "" else s!"\nBrand fonts: {fonts}")

/-- The compliance entries, one a line. -/
def complianceLines (entries : List ComplianceEntry) : String :=
  "\n".intercalate (entries.map fun e => s!"- [{Enumeration.value e.kind}] {e.text}")

/-- The contacts, one a line. -/
def contactLines (contacts : List ClientContact) : String :=
  "\n".intercalate (contacts.map fun c =>
    "- " ++ orText (some c.name) "?" ++ " (" ++ orText c.role "contact" ++ ", " ++
      orText c.department "-" ++ ") " ++ orText c.email "" ++ s!" [{Enumeration.value c.side}]")

/-- `_field_groups` — non-empty onboarding field groups as plain text. -/
def fieldGroups (inputs : ClientInputs) : List (String × String) :=
  let client := inputs.client
  let basics := lines [("Name", client.name), ("Business type", client.businessType),
    ("Industry", client.industry), ("Website", client.website), ("Language", client.language),
    ("Location", client.location)]
  let brand := brandParts client
  let compliance := complianceLines inputs.complianceEntries
  let contacts := contactLines inputs.contacts
  [group "basics" (basics ≠ "") basics,
    group "markets" (filled client.markets)
      ("Operating markets:\n" ++ strip (client.markets.getD "")),
    group "brand" (strip brand ≠ "") (strip brand),
    group "goals" (filled inputs.goals) ("Client goals:\n" ++ strip (inputs.goals.getD "")),
    group "compliance" (strip compliance ≠ "") s!"Compliance & rules:\n{compliance}",
    group "contacts" (strip contacts ≠ "") s!"Points of contact:\n{contacts}"].filterMap id

/-! ## Desired sources -/

/-- The identity of a source: `field:<key>`, `document:<id>` or `message:<id>`. -/
inductive Identity where
  | field (key : String)
  | document (id : Uuid)
  | message (id : Uuid)
deriving DecidableEq

/-- `_identity` -/
def identity (src : KnowledgeSource) : Identity :=
  match src.refKind, src.refId with
  | some "document", some id => .document id
  | some "message", some id => .message id
  | _, _ => .field (src.refKey.getD "None")

/-- `_Desired` — `loaded` is what `load_text` returns. -/
structure Desired where
  identity : Identity
  sourceType : KnowledgeSourceType
  label : String
  hashBasis : String
  loaded : String × SourceStatus
  refKind : Option String
  refId : Option Uuid
  refKey : Option String

/-- `_load_document` — a download that fails leaves no text. -/
def loadDocument (kit : Toolkit) (reachable : String → Bool) (doc : Document) :
    String × SourceStatus :=
  match if reachable doc.storageUrl then kit.object doc.storageUrl else none with
  | none => ("", .failed)
  | some data => kit.extractText data doc.mimeType doc.name

/-- `doc.storage_url or str(doc.id)` -/
def documentBasis (doc : Document) : String :=
  if doc.storageUrl = "" then Uuid.print doc.id else doc.storageUrl

/-- The source of a field group. -/
def desiredField (entry : String × String) : Desired where
  identity := .field entry.1
  sourceType := .onboardingField
  label := s!"Onboarding: {entry.1}"
  hashBasis := entry.2
  loaded := (entry.2, .extracted)
  refKind := some "field"
  refId := none
  refKey := some entry.1

/-- The source of a document. -/
def desiredDocument (kit : Toolkit) (reachable : String → Bool) (doc : Document) : Desired where
  identity := .document doc.id
  sourceType := .document
  label := doc.name
  hashBasis := documentBasis doc
  loaded := loadDocument kit reachable doc
  refKind := some "document"
  refId := some doc.id
  refKey := none

/-- The source of a promoted message. -/
def desiredMessage (msg : Message) : Desired where
  identity := .message msg.id
  sourceType := .note
  label := "Email: " ++ orText msg.senderEmail "message"
  hashBasis := msg.body
  loaded := (msg.body, .extracted)
  refKind := some "message"
  refId := some msg.id
  refKey := some s!"message:{Uuid.print msg.id}"

/-- `_desired` -/
def desired (kit : Toolkit) (reachable : String → Bool) (inputs : ClientInputs) : List Desired :=
  (fieldGroups inputs).map desiredField ++
    inputs.documents.map (desiredDocument kit reachable) ++ inputs.promoted.map desiredMessage

/-! ## Sync -/

/-- `SyncedSource`. -/
structure SyncedSource where
  source : KnowledgeSource
  needsRechunk : Bool

/-- The row of a source that is not known yet. -/
def newSource (clientId id : Uuid) (d : Desired) : KnowledgeSource where
  id := id
  clientId := clientId
  sourceType := d.sourceType
  refKind := d.refKind
  refId := d.refId
  refKey := d.refKey
  label := d.label
  contentHash := none
  extractedText := none
  charCount := 0
  status := .pending
  chunks := []

/-- Store a hash and a loaded text on a row; its label is not touched. -/
def refresh (kit : Toolkit) (hash : String) (loaded : String × SourceStatus)
    (src : KnowledgeSource) : KnowledgeSource :=
  let text := clip kit.maxDocumentChars loaded.1
  { src with
    contentHash := some hash
    extractedText := some text
    charCount := text.length
    status := loaded.2 }

/-- `{self._identity(s): s for s in rows}` -/
def existing (rows : List KnowledgeSource) : Dict Identity KnowledgeSource :=
  Dict.ofList (rows.map fun row => (identity row, row))

/-- The turn of one desired source in `sync`. -/
def syncOne (kit : Toolkit) (full : Bool) (clientId : Uuid) (newId : Identity → Uuid)
    (rows : List KnowledgeSource) (d : Desired) : SyncedSource :=
  match (existing rows).get d.identity with
  | none =>
    ⟨refresh kit (kit.sha d.hashBasis) d.loaded (newSource clientId (newId d.identity) d), true⟩
  | some src =>
    if src.contentHash = some (kit.sha d.hashBasis) ∧ full = false then ⟨src, false⟩
    else ⟨refresh kit (kit.sha d.hashBasis) d.loaded src, true⟩

/-- `sync` — the rows it neither returns nor removes, and the synced sources. A row whose identity
another row has as well is hidden from the sync; every other row that is not desired is
removed. -/
def sync (kit : Toolkit) (full : Bool) (reachable : String → Bool) (newId : Identity → Uuid)
    (inputs : ClientInputs) (rows : List KnowledgeSource) :
    List KnowledgeSource × List SyncedSource :=
  (rows.filter fun row =>
      ((existing rows).get (identity row)).map KnowledgeSource.id ≠ some row.id,
    (desired kit reachable inputs).map (syncOne kit full inputs.client.id newId rows))

/-! ## Chunks and vectors -/

/-- `_embed_source` -/
def embedSource (kit : Toolkit) (src : KnowledgeSource) : KnowledgeSource :=
  let pieces := kit.chunk (src.extractedText.getD "")
  if pieces.isEmpty then src
  else
    let weight : Rat :=
      if src.refKey = some "brand" ∨ src.refKey = some "compliance" then 2 else 1
    { src with
      chunks := src.chunks ++
        (pieces.zip (kit.embed (pieces.map Chunk.text))).map fun (piece, vec) =>
          { ordinal := piece.ordinal
            text := piece.text
            charCount := piece.text.length
            tokenEstimate := piece.text.length / 4
            embedding := vec
            weight
            label := src.label }
      status := .embedded }

/-- Drop the chunks of a source and embed it again, when it has a text. -/
def rechunk (kit : Toolkit) (src : KnowledgeSource) : KnowledgeSource :=
  let cleared := { src with chunks := [] }
  if src.status = .extracted ∧ filled src.extractedText then embedSource kit cleared else cleared

/-- A synced source after the chunking step of the build. -/
def SyncedSource.embedded (kit : Toolkit) (item : SyncedSource) : KnowledgeSource :=
  if item.needsRechunk then rechunk kit item.source else item.source

/-- The rows of a client after the first two steps of a build. -/
def ingest (kit : Toolkit) (full : Bool) (reachable : String → Bool) (newId : Identity → Uuid)
    (inputs : ClientInputs) (rows : List KnowledgeSource) : List KnowledgeSource :=
  let (hidden, synced) := sync kit full reachable newId inputs rows
  hidden ++ synced.map (SyncedSource.embedded kit)

end MarketingOS.Intelligence
