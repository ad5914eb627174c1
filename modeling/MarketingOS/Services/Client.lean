import MarketingOS.Schemas.Client
import MarketingOS.Services.JobQueue
import MarketingOS.Services.Plan

/-!
# Clients, brand settings, users and assignments

Who may access a client and with which capabilities, and the non-committing halves of the admin
writes to clients, brand settings, users and assignments.
-/
namespace MarketingOS

/-- `capabilities_from_stored` — no list means the full set, an unknown value is ignored, and
the per-client `admin` capability expands to the full set. -/
def capabilitiesFromStored : Option (List String) → List ClientCapability
  | none => Enumeration.members
  | some stored =>
    let caps := stored.filterMap Enumeration.ofValue
    if ClientCapability.admin ∈ caps then Enumeration.members else caps

namespace ClientService

/-- `_can_access`. -/
def canAccess (t : Tables) (user : User) (clientId : Uuid) : Bool :=
  decide (user.role = .admin) || (t.getAssignment clientId user.id).isSome

/-- `get_client` — an inaccessible client is reported as missing. -/
def getClient (t : Tables) (user : User) (clientId : Uuid) : Outcome Client :=
  match t.getClient clientId with
  | none => notFound "Client not found."
  | some client =>
    if canAccess t user clientId then .ok client else notFound "Client not found."

/-- `effective_capabilities`. -/
def effectiveCapabilities (t : Tables) (user : User) (clientId : Uuid) : List ClientCapability :=
  if user.role = .admin then Enumeration.members
  else match t.getAssignment clientId user.id with
    | none => []
    | some assignment =>
      if user.role = .manager then Enumeration.members
      else capabilitiesFromStored assignment.capabilities

end ClientService

namespace Client

/-- The `_UPDATE_FIELDS` with their `_audit_value`. -/
def auditValues (client : Client) : List (String × Json) :=
  [("name", .ofText client.name), ("business_type", .ofText client.businessType),
    ("industry", .ofText client.industry), ("website", .ofText client.website),
    ("location", .ofText client.location), ("language", .ofText client.language),
    ("timezone", .ofText client.timezone), ("markets", .ofText client.markets),
    ("status", .ofMember client.status)]

/-- The columns of the client row itself; the brand colours and fonts are rows of their own. -/
def columns (client : Client) : Client := { client with brandColors := [], brandFonts := [] }

/-- The row a flush sends: `updated_at` moves when some column of the client row changed. -/
def touch (now : Timestamp) (before after : Client) : Client :=
  if after.columns = before.columns then after else { after with updatedAt := now }

end Client

/-- `setattr` of every field of a client edit that was sent. -/
def ClientUpdate.apply {env : Environment} (data : ClientUpdate env) (client : Client) : Client :=
  { client with
    name := data.name.text.onto client.name
    businessType := data.businessType.text.onto client.businessType
    industry := data.industry.text.onto client.industry
    website := data.website.text.onto client.website
    location := data.location.text.onto client.location
    language := data.language.text.onto client.language
    timezone := Patch.onto (data.timezone.map fun value => value.map Subtype.val) client.timezone
    markets := data.markets.text.onto client.markets
    status := data.status.onto client.status }

namespace ClientService

/-- `_apply_update_client` — an edit that changes something also enqueues a build. -/
def applyUpdateClient (env : Environment) (tick : Tick) (t : Tables) (clientId : Uuid)
    (data : ClientUpdate env) : Outcome (Applied Client) :=
  match t.getClient clientId with
  | none => notFound "Client not found."
  | some client =>
    let changes := fieldChanges client.auditValues (data.apply client).auditValues
    let t' := t.modifyClient clientId fun row => Client.touch tick.now row (data.apply row)
    .ok ⟨Client.touch tick.now client (data.apply client), changes,
      match changes with
      | none => t'
      | some changed =>
        { t' with
          intelJobs := JobQueue.enqueue env tick clientId .incremental
            (some ((changed.map Prod.fst).mergeSort fun a b => a ≤ b)) 5 t'.intelJobs }⟩

end ClientService

namespace BrandUpdate

/-- The colour rows that replace a client's colours, numbered in order. -/
def colorRows (colors : List BrandColorIn) : List BrandColor :=
  colors.mapIdx fun position color => ⟨color.hex.val, color.label.text.read, position⟩

/-- The font rows that replace a client's fonts; blank names are dropped. -/
def fontRows (fonts : List String) : List BrandFont :=
  (fonts.filter fun family => decide (strip family ≠ "")).map fun family => ⟨family, none⟩

/-- `_apply_brand` — sent scalars are written, sent lists replace the brand rows. -/
def apply (data : BrandUpdate) (client : Client) : Client :=
  { client with
    aboutBrand := data.aboutBrand.text.onto client.aboutBrand
    brandVoice := data.brandVoice.text.onto client.brandVoice
    brandExtracted := data.brandExtracted.text.onto client.brandExtracted
    colorGuidelines := data.colorGuidelines.text.onto client.colorGuidelines
    logoUrl := data.logoUrl.text.onto client.logoUrl
    brandColors := match data.colors.read with
      | none => client.brandColors
      | some colors => colorRows colors.val
    brandFonts := match data.fonts.read with
      | none => client.brandFonts
      | some fonts => fontRows fonts.val }

end BrandUpdate

namespace OnboardingService

/-- `_brand_snapshot`. -/
def brandSnapshot (client : Client) : List (String × Json) :=
  [("about_brand", .ofText client.aboutBrand), ("brand_voice", .ofText client.brandVoice),
    ("color_guidelines", .ofText client.colorGuidelines), ("logo_url", .ofText client.logoUrl),
    ("colors", .arr (client.brandColors.map fun color => .str color.hex)),
    ("fonts", .arr (client.brandFonts.map fun font => .str font.family))]

/-- `_apply_update_brand` — always enqueues a build. -/
def applyUpdateBrand (env : Environment) (tick : Tick) (t : Tables) (client : Client)
    (data : BrandUpdate) : Applied Client :=
  let t' := t.modifyClient client.id fun row => Client.touch tick.now row (data.apply row)
  ⟨Client.touch tick.now client (data.apply client),
    fieldChanges (brandSnapshot client) (brandSnapshot (data.apply client)),
    { t' with
      intelJobs := JobQueue.enqueue env tick client.id .incremental (some ["brand"]) 5
        t'.intelJobs }⟩

end OnboardingService

namespace User

/-- The tracked fields with their `_audit_value`. -/
def auditValues (user : User) : List (String × Json) :=
  [("name", .str user.name), ("role", .ofMember (some user.role)),
    ("is_active", .bool user.isActive)]

/-- The row a flush sends: `updated_at` moves when some column changed. -/
def touch (now : Timestamp) (before after : User) : User :=
  if after = before then before else { after with updatedAt := now }

end User

/-- The edits of `_apply_update_user`; a field sent as null is not applied. -/
def UserUpdate.apply (data : UserUpdate) (user : User) : User :=
  { user with
    name := data.name.text.read.getD user.name
    role := data.role.read.getD user.role
    isActive := data.isActive.read.getD user.isActive }

namespace UserService

/-- `_apply_update_user`. -/
def applyUpdateUser (tick : Tick) (t : Tables) (userId : Option Uuid) (data : UserUpdate) :
    Outcome (Applied User) :=
  match userId.bind t.getUser with
  | none => notFound "User not found."
  | some user =>
    .ok ⟨User.touch tick.now user (data.apply user),
      fieldChanges user.auditValues (data.apply user).auditValues,
      t.modifyUser user.id fun row => User.touch tick.now row (data.apply row)⟩

end UserService

namespace AssignmentService

/-- `_sorted_caps` — the requested capabilities in declaration order, each once; no list stays
no list. -/
def sortedCaps (caps : Option (List ClientCapability)) : Option (List String) :=
  caps.map fun requested =>
    ((Enumeration.members : List ClientCapability).filter fun c => requested.contains c).map
      Enumeration.value

/-- `_effective_caps` — the capability list shown for a stored set. -/
def effectiveCaps (stored : Option (List String)) : List ClientCapability :=
  (Enumeration.members : List ClientCapability).filter fun c =>
    (capabilitiesFromStored stored).contains c

/-- `_apply_assign`. -/
def applyAssign (tick : Tick) (t : Tables) (clientId userId assignedBy : Uuid)
    (capabilities : Option (List ClientCapability)) : Outcome (ClientAssignment × Tables) :=
  if (t.getClient clientId).isNone then notFound "Client not found."
  else if (t.getUser userId).isNone then notFound "User not found."
  else if (t.getAssignment clientId userId).isSome then
    conflict "This client is already assigned to that user."
  else do
    let assignment : ClientAssignment :=
      ⟨tick.rowId, clientId, userId, some assignedBy, sortedCaps capabilities, tick.now⟩
    let t ← flush { t with assignments := t.assignments ++ [assignment] }
    pure (assignment, t)

/-- `AssignmentService.assignments.get`, or the error its callers raise. -/
def getAssignment (t : Tables) (clientId userId : Uuid) : Outcome ClientAssignment :=
  match t.getAssignment clientId userId with
  | none => notFound "Assignment not found."
  | some assignment => .ok assignment

/-- `_apply_set_capabilities`. -/
def applySetCapabilities (t : Tables) (clientId userId : Uuid)
    (capabilities : List ClientCapability) : Outcome (ClientAssignment × Tables) := do
  let assignment ← getAssignment t clientId userId
  let write := fun row : ClientAssignment =>
    { row with capabilities := sortedCaps (some capabilities) }
  let t ← flush { t with
    assignments := Table.modify ClientAssignment.pair (clientId, userId) write t.assignments }
  pure (write assignment, t)

/-- `_apply_unassign`. -/
def applyUnassign (t : Tables) (clientId userId : Uuid) : Outcome Tables := do
  let _ ← getAssignment t clientId userId
  flush
    { t with assignments := Table.remove ClientAssignment.pair (clientId, userId) t.assignments }

end AssignmentService

end MarketingOS
