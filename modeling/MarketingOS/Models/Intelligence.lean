import MarketingOS.Base.Dict
import MarketingOS.Models.Rows

/-!
# Client intelligence rows

What a client's intelligence build reads and writes: the onboarding data around the client row,
the documents and promoted messages, the knowledge sources with their chunks, and the versioned
profiles with their directives.
-/
namespace MarketingOS

/-! ## Enumerations -/

/-- `ComplianceKind`. -/
inductive ComplianceKind where
  | brandVoice
  | banned
  | required
  | rule
  | note
deriving DecidableEq, Repr

instance : Enumeration ComplianceKind where
  members := [.brandVoice, .banned, .required, .rule, .note]
  value
    | .brandVoice => "brand_voice"
    | .banned => "banned"
    | .required => "required"
    | .rule => "rule"
    | .note => "note"
  named a := by cases a <;> decide

/-- `ContactSide`. -/
inductive ContactSide where
  | client
  | inwork
deriving DecidableEq, Repr

instance : Enumeration ContactSide where
  members := [.client, .inwork]
  value
    | .client => "client"
    | .inwork => "inwork"
  named a := by cases a <;> decide

/-- `KnowledgeSourceType` — provenance of a knowledge source. -/
inductive KnowledgeSourceType where
  | document
  | onboardingField
  | note
  | website
deriving DecidableEq, Repr

/-- `SourceStatus`. -/
inductive SourceStatus where
  | pending
  | extracted
  | embedded
  | failed
  | unsupported
deriving DecidableEq, Repr

/-- `DirectiveType`. -/
inductive DirectiveType where
  | must
  | mustNot
  | prefer
  | avoid
  | constraint
deriving DecidableEq, Repr

instance : Enumeration DirectiveType where
  members := [.must, .mustNot, .prefer, .avoid, .constraint]
  value
    | .must => "must"
    | .mustNot => "must_not"
    | .prefer => "prefer"
    | .avoid => "avoid"
    | .constraint => "constraint"
  named a := by cases a <;> decide

/-- `DirectiveTier` — priority tier. -/
inductive DirectiveTier where
  | mandatory
  | required
  | preference
  | inferred
deriving DecidableEq, Repr

/-- `DirectiveStatus`. -/
inductive DirectiveStatus where
  | active
  | superseded
  | conflicted
  | pendingReview
deriving DecidableEq, Repr

/-- `ProfileStatus`. -/
inductive ProfileStatus where
  | building
  | ready
  | failed
  | superseded
deriving DecidableEq, Repr

/-! ## Inputs -/

/-- `ComplianceEntry`. -/
structure ComplianceEntry where
  kind : ComplianceKind
  text : String
  isActive : Bool
deriving DecidableEq

/-- `ClientContact`. -/
structure ClientContact where
  side : ContactSide
  name : String
  role : Option String
  department : Option String
  email : Option String
deriving DecidableEq

/-- `Document` — the object itself lives in the storage, under `storageUrl`. -/
structure Document where
  id : Uuid
  name : String
  mimeType : Option String
  storageUrl : String
deriving DecidableEq

/-- `Message` — a promoted one. -/
structure Message where
  id : Uuid
  senderEmail : Option String
  body : String
deriving DecidableEq

/-- What a build reads of a client. -/
structure ClientInputs where
  client : Client
  goals : Option String
  complianceEntries : List ComplianceEntry
  contacts : List ClientContact
  documents : List Document
  /-- The messages with `added_to_source_at` set. -/
  promoted : List Message
deriving DecidableEq

/-- A client nothing else is known about. -/
def ClientInputs.bare (id : Uuid) : ClientInputs where
  client := ⟨id, none, none, none, none, none, none, none, none, none, none, none, none, none, none,
    0, [], []⟩
  goals := none
  complianceEntries := []
  contacts := []
  documents := []
  promoted := []

/-! ## Knowledge -/

/-- An embedding vector. -/
abbrev Embedding : Type := List Rat

/-- `KnowledgeChunk`, with the label its `meta` holds. -/
structure KnowledgeChunk where
  ordinal : Nat
  text : String
  charCount : Nat
  tokenEstimate : Nat
  embedding : Embedding
  weight : Rat
  label : String
deriving DecidableEq

/-- `KnowledgeSource`, with the chunks it owns. -/
structure KnowledgeSource where
  id : Uuid
  clientId : Uuid
  sourceType : KnowledgeSourceType
  refKind : Option String
  refId : Option Uuid
  refKey : Option String
  label : String
  contentHash : Option String
  extractedText : Option String
  charCount : Nat
  status : SourceStatus
  chunks : List KnowledgeChunk
deriving DecidableEq

/-! ## Profiles -/

/-- Capability flags: `{"ai_text_generation": false}`. -/
abbrev Flags : Type := Dict String Json

/-- `ClientDirective`. -/
structure ClientDirective where
  id : Uuid
  profileId : Uuid
  clientId : Uuid
  type : DirectiveType
  category : String
  text : String
  tier : DirectiveTier
  rank : Int
  confidence : Rat
  status : DirectiveStatus
  capabilityFlags : Option Flags
  sourceId : Option Uuid
  conflictsWithId : Option Uuid
  createdAt : Timestamp
deriving DecidableEq

/-- `ClientProfile`. -/
structure ClientProfile where
  id : Uuid
  clientId : Uuid
  version : Nat
  status : ProfileStatus
  summaryMd : Option String
  profile : Option Json
  capabilityFlags : Flags
  model : Option String
  sourceHashes : Dict String (Option String)
  createdBy : Option Uuid
deriving DecidableEq

end MarketingOS
