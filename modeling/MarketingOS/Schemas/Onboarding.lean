import MarketingOS.Schemas.Client

/-!
# Onboarding schemas

The partial saves of the onboarding wizard and the request of the website auto-fill. A step update
carries any of its sections; in a section, what was not sent is not applied.
-/
namespace MarketingOS

/-- `BasicsUpdate` -/
structure BasicsUpdate (env : Environment) where
  name : Patch (BoundedText 1 160)
  businessType : Patch (BoundedText 0 120)
  industry : Patch (BoundedText 0 120)
  website : Patch (BoundedText 0 255)
  language : Patch (BoundedText 0 60)
  location : Patch (BoundedText 0 160)
  timezone : Patch (Timezone env)
  markets : Patch (BoundedText 0 maxLongLine)

namespace BasicsUpdate

/-- The fields the schema knows. -/
def names : List String :=
  ["name", "business_type", "industry", "website", "language", "location", "timezone", "markets"]

/-- `BasicsUpdate(**document)`. -/
def decode (env : Environment) (document : Json) : Outcome (BasicsUpdate env) := do
  let fields ← Schema.arguments document
  Schema.forbidExtra names fields
  let name ← Schema.field (Patch.decode (BoundedText.codec 1 160)) fields "name"
  let businessType ← Schema.field (Patch.decode (BoundedText.codec 0 120)) fields "business_type"
  let industry ← Schema.field (Patch.decode (BoundedText.codec 0 120)) fields "industry"
  let website ← Schema.field (Patch.decode (BoundedText.codec 0 255)) fields "website"
  let language ← Schema.field (Patch.decode (BoundedText.codec 0 60)) fields "language"
  let location ← Schema.field (Patch.decode (BoundedText.codec 0 160)) fields "location"
  let timezone ← Schema.field (Timezone.decode env) fields "timezone"
  let markets ← Schema.field (Patch.decode (BoundedText.codec 0 maxLongLine)) fields "markets"
  pure ⟨name, businessType, industry, website, language, location, timezone, markets⟩

end BasicsUpdate

/-- `ContactIn` — the phone and the description are read by no build. -/
structure ContactIn where
  name : BoundedText 1 120
  role : Option (BoundedText 0 120)
  department : Option (BoundedText 0 120)
  email : Option String

/-- `ComplianceIn` -/
structure ComplianceIn where
  feed : Option (BoundedText 0 maxText)

/-- `DocumentRef` — a reference to an object that is already stored. -/
structure DocumentRef where
  name : BoundedText 1 255
  mimeType : Option (BoundedText 0 120)
  storageUrl : BoundedText 1 1024

/-- `DocumentsRequest` -/
abbrev DocumentsRequest : Type :=
  { documents : List DocumentRef // 1 ≤ documents.length ∧ documents.length ≤ 100 }

/-- `OnboardingDraftRequest` — step 1, the mandatory gate. -/
structure OnboardingDraftRequest (env : Environment) where
  name : BoundedText 1 160
  businessType : BoundedText 1 120
  industry : BoundedText 1 120
  website : Option (BoundedText 0 255)
  language : Option (BoundedText 0 60)
  location : Option (BoundedText 0 160)
  timezone : Option (Timezone env)
  markets : Option (BoundedText 0 maxLongLine)

/-- `BrandIn` -/
structure BrandIn where
  aboutBrand : Option (BoundedText 0 maxText)
  brandVoice : BoundedText 1 maxLongLine
  brandExtracted : Option (BoundedText 0 maxText)
  colors : { items : List BrandColorIn // items.length ≤ 24 }
  fonts : { items : List String // items.length ≤ 12 }
  colorGuidelines : Option (BoundedText 0 maxText)
  logoUrl : Option (BoundedText 0 1024)

/-- `OnboardingRequest` — the whole wizard at once; the platforms as the validator leaves them. -/
structure OnboardingRequest (env : Environment) where
  basics : OnboardingDraftRequest env
  brand : BrandIn
  platforms : List String
  goals : Option (BoundedText 0 maxText)
  compliance : ComplianceIn
  clientContacts : { contacts : List ContactIn // ∃ c ∈ contacts, c.email.isSome }
  inworkContacts : List ContactIn
  documents : List DocumentRef

/-- `OnboardingStepUpdate` — the platforms as the validator leaves them. -/
structure OnboardingStepUpdate (env : Environment) where
  step : Option { step : Nat // 1 ≤ step ∧ step ≤ 8 }
  basics : Patch (BasicsUpdate env)
  brand : Patch BrandUpdate
  platforms : Patch (List String)
  goals : Patch (BoundedText 0 maxText)
  compliance : Patch ComplianceIn
  clientContacts : Patch { contacts : List ContactIn // contacts.length ≤ 100 }
  inworkContacts : Patch { contacts : List ContactIn // contacts.length ≤ 100 }

namespace OnboardingStepUpdate

/-- An update that sends nothing. -/
def nothing (env : Environment) : OnboardingStepUpdate env :=
  ⟨none, none, none, none, none, none, none, none⟩

/-- `sorted(data.model_fields_set - {"step"})` -/
def sections {env : Environment} (data : OnboardingStepUpdate env) : List String :=
  [("basics", data.basics.sent), ("brand", data.brand.sent),
    ("client_contacts", data.clientContacts.sent), ("compliance", data.compliance.sent),
    ("goals", data.goals.sent), ("inwork_contacts", data.inworkContacts.sent),
    ("platforms", data.platforms.sent)].filterMap fun entry =>
      if entry.2 then some entry.1 else none

end OnboardingStepUpdate

/-- `AutoFillRequest` -/
structure AutoFillRequest where
  website : BoundedText 1 255
  name : Option (BoundedText 0 160)
  clientId : Option Uuid

end MarketingOS
