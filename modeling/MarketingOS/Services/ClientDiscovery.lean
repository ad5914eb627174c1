import MarketingOS.Ai.BrandExtraction
import MarketingOS.Services.Onboarding

/-!
# Website auto-fill

One scan of a client's website fills what the client record has no value for. A new draft is opened
and committed first when no client is given; what was found is then saved as one onboarding step
that names no step. What the scan gathered and what the model answers are given.
-/
namespace MarketingOS

namespace Web

/-- `_SCHEME_RE` -/
def schemeRe : Pattern :=
  .inOrder [.many Char.isAlpha 1 (some 1) true,
    .many (fun c => c.isAlphanum || ['+', '.', '-'].contains c) 0 none true, .word "://"]

/-- `normalize_url`; nothing where `urlparse` raises. -/
def normalizeUrl (lib : UrlLibrary) (raw : String) : Option (Option String) :=
  let raw := strip raw
  if raw = "" then some none
  else
    let inferred := (Pattern.matchStart (fun _ => false) schemeRe raw).isNone
    let raw := if inferred then "https://" ++ raw else raw
    (lib.urlparse raw).map fun parsed =>
      let hostname := parsed.hostname.getD ""
      if (["http", "https"].contains parsed.scheme) = false || hostname = "" then none
      else if inferred && !hostname.toList.contains '.' then none
      else some raw

end Web

/-- `AutoFillSuggestions` -/
structure AutoFillSuggestions where
  emails : List String
  phones : List String
  socialLinks : List Web.SocialLink
deriving DecidableEq

/-- `AutoFillResult` -/
structure AutoFillResult where
  client : ClientRecord
  created : Bool
  filled : List String
  aiGuessed : List String
  suggestions : AutoFillSuggestions
  source : SignalSource
  aiGenerated : Bool

namespace ClientDiscoveryService

open BrandExtractionService

/-- What the service takes from the standard library. -/
structure Library (ν : Type) where
  builtins : Builtins ν
  /-- `word.capitalize()` -/
  capitalize : String → String
  url : Web.UrlLibrary

/-- `_AI_GUESSED_FIELDS` -/
def aiGuessedFields : List String := ["basics.industry", "basics.business_type"]

/-- `_is_empty` -/
def isEmpty (value : Option String) : Bool := strip (value.getD "") = ""

/-- `_name_from_domain`; nothing where `urlparse` raises. -/
def nameFromDomain {ν : Type} (lib : Library ν) (website : String) : Option String := do
  let address ← Web.normalizeUrl lib.url website
  let parsed ← lib.url.urlparse (address.getD website)
  let host := (orElse (parsed.hostname.getD "") website).toList
  let host := if "www.".toList.isPrefixOf host then host.drop 4 else host
  let label := if host = [] then website.toList else host.takeWhile (· ≠ '.')
  let words := (label.map fun c => if c = '_' then '-' else c).splitOn '-'
  let words := (words.filter (· ≠ [])).map fun word => lib.capitalize (String.ofList word)
  return orElse (" ".intercalate words) "New Client"

/-- `(data.name or "").strip() or (identity.org_name if identity else None)` -/
def foundName (data : AutoFillRequest) (identity : Option Web.IdentitySignals) : Option String :=
  let typed := strip ((data.name.map Subtype.val).getD "")
  if typed = "" then identity.bind Web.IdentitySignals.orgName else some typed

/-- What is found for a column, when the column is empty and there is something. -/
def fill (stored found : Option String) : Option String :=
  if isEmpty stored then found.filter (· ≠ "") else none

/-- `_basics_patch` — a key without a document is not set. -/
def basicsPatch (client : Client) (data : AutoFillRequest) (result : BrandExtraction)
    (identity : Option Web.IdentitySignals) : List (String × Option Json) :=
  [("name", (fill client.name (foundName data identity)).map Json.str),
    ("website", (fill client.website (some data.website.val)).map Json.str),
    ("location", (fill client.location
      (identity.bind Web.IdentitySignals.location)).map Json.str),
    ("industry", (fill client.industry result.suggestedIndustry).map Json.str),
    ("business_type", (fill client.businessType result.suggestedBusinessType).map Json.str)]

/-- What is found for the colours, when there are none. -/
def fillColors (client : Client) (result : BrandExtraction) : Option (List String) :=
  if client.brandColors = [] ∧ result.colors ≠ [] then some (result.colors.take 4) else none

/-- What is found for the fonts, when there are none. -/
def fillFonts (client : Client) (result : BrandExtraction) : Option (List String) :=
  if client.brandFonts = [] ∧ result.fonts ≠ [] then some (result.fonts.take 6) else none

/-- `about_brand` of `_brand_patch` — a synthesized summary is no content. -/
def aboutBrand (result : BrandExtraction) (description : Option String) : Option String :=
  if result.aiGenerated then some result.summary else description

/-- `{"hex": c}` -/
def colorDocument (color : String) : Json := .obj [("hex", .str color)]

/-- `_brand_patch` -/
def brandPatch (client : Client) (result : BrandExtraction)
    (identity : Option Web.IdentitySignals) (description : Option String) :
    List (String × Option Json) :=
  [("about_brand", (fill client.aboutBrand (aboutBrand result description)).map Json.str),
    ("brand_voice", (fill client.brandVoice result.tone).map Json.str),
    ("logo_url", (fill client.logoUrl (identity.bind Web.IdentitySignals.logoUrl)).map Json.str),
    ("colors", (fillColors client result).map fun colors => .arr (colors.map colorDocument)),
    ("fonts", (fillFonts client result).map fun fonts => .arr (fonts.map Json.str))]

/-- `_suggestions` -/
def suggestions : Option Web.IdentitySignals → AutoFillSuggestions
  | none => ⟨[], [], []⟩
  | some identity => ⟨identity.emails, identity.phones, identity.socialLinks⟩

/-- A section of the update, when there is something to save in it. -/
def sectionOf {α : Type} (schema : Json → Outcome α) (fields : List (String × Json)) :
    Outcome (Patch α) :=
  if fields.isEmpty then .ok none else (schema (.obj fields)).map fun sent => some (some sent)

/-- The update that carries the sections with something to save. -/
def stepUpdate (env : Environment) (basics brand : List (String × Json)) :
    Outcome (OnboardingStepUpdate env) := do
  let basics ← sectionOf (BasicsUpdate.decode env) basics
  let brand ← sectionOf BrandUpdate.decode brand
  return { OnboardingStepUpdate.nothing env with basics, brand }

/-- What was found is saved, if anything was. -/
def save (env : Environment) (tick : Tick) (t : OnboardingTables) (client : ClientRecord)
    (basics brand : List (String × Json)) : Outcome ClientRecord × OnboardingTables :=
  if basics.isEmpty && brand.isEmpty then (.ok client, t)
  else
    match stepUpdate env basics brand with
    | .error exc => (.error exc, t)
    | .ok update => OnboardingService.updateStep env tick t client update

/-- The dotted paths of what is saved. -/
def paths (basics brand : List (String × Json)) : List String :=
  basics.map (fun entry => "basics." ++ entry.1) ++ brand.map fun entry => "brand." ++ entry.1

/-- The name of a new draft is reported although no patch carries it. -/
def reported (created : Bool) (filled : List String) : List String :=
  if created && !filled.contains "basics.name" then "basics.name" :: filled else filled

variable {ν : Type} (lib : Library ν) (env : Environment)

/-- The name of a new draft; nothing where `urlparse` raises. -/
def draftName (data : AutoFillRequest) (identity : Option Web.IdentitySignals) : Option String :=
  ((foundName data identity).filter (· ≠ "")).or (nameFromDomain lib data.website.val)

/-- The client of the request, or a new draft. -/
def openClient (tick : Tick) (data : AutoFillRequest) (identity : Option Web.IdentitySignals)
    (t : OnboardingTables) : Outcome ClientRecord × OnboardingTables :=
  match data.clientId with
  | some clientId =>
    match t.get clientId with
    | none => (notFound "Client not found.", t)
    | some client => (.ok client, t)
  | none =>
    match draftName lib data identity with
    | none => (raised .valueError, t)
    | some name =>
      OnboardingService.createDraftMinimal lib.builtins.lower tick t name data.website.val

/-- What `auto_fill` does with the client and the theme. -/
def fillIn (tick : Tick) (data : AutoFillRequest) (sig : Signals) (result : BrandExtraction)
    (client : ClientRecord) (t : OnboardingTables) : Outcome AutoFillResult × OnboardingTables :=
  let created := data.clientId.isNone
  let basics := Json.sparse (basicsPatch client.client data result sig.identity)
  let brand := Json.sparse (brandPatch client.client result sig.identity sig.description)
  let filled := reported created (paths basics brand)
  match save env tick t client basics brand with
  | (.error exc, t) => (.error exc, t)
  | (.ok client, t) =>
    (.ok {
      client
      created
      filled
      aiGuessed := filled.filter fun path => aiGuessedFields.contains path
      suggestions := suggestions sig.identity
      source := sig.source
      aiGenerated := result.aiGenerated }, t)

/-- `auto_fill` — the ticks are those of the draft and of the step. -/
def autoFill (draftTick tick : Tick) (configured : Bool) (sig : Signals)
    (answer : Option (List (String × JsonValue ν))) (data : AutoFillRequest)
    (t : OnboardingTables) : Outcome AutoFillResult × OnboardingTables :=
  match extractWithIdentity lib.builtins configured data.website.val sig answer with
  | .error exc => (.error exc, t)
  | .ok result =>
    match openClient lib draftTick data sig.identity t with
    | (.error exc, t) => (.error exc, t)
    | (.ok client, t) => fillIn env tick data sig result client t

end ClientDiscoveryService

end MarketingOS
