import MarketingOS.Models.Intelligence
import MarketingOS.Schemas.Onboarding
import MarketingOS.Services.Client
import MarketingOS.Utils.Slug

/-!
# Client onboarding

The progressive wizard: a draft is opened, and every later step is saved partially. Each save
leaves a build of the client in the same transaction. A save the database refuses is rolled back
and reported as a conflict.
-/
namespace MarketingOS

/-- A `ComplianceEntry` of the register, with its identifier. -/
structure RegisterEntry where
  id : Uuid
  entry : ComplianceEntry
deriving DecidableEq

/-- The rows of a client that onboarding writes. -/
structure ClientRecord where
  slug : String
  onboardingStep : Nat
  client : Client
  goals : Option String
  platforms : List String
  complianceEntries : List RegisterEntry
  contacts : List ClientContact
  documents : List Document
deriving DecidableEq

namespace ClientRecord

/-- The identifier of the client. -/
def id (record : ClientRecord) : Uuid := record.client.id

/-- The columns of the client row itself. -/
def row (record : ClientRecord) : Client × Option String × Nat :=
  (record.client.columns, record.goals, record.onboardingStep)

/-- The rows a flush sends: `updated_at` moves when some column of the client row changed. -/
def touch (now : Timestamp) (before after : ClientRecord) : ClientRecord :=
  if after.row = before.row then after
  else { after with client := { after.client with updatedAt := now } }

/-- The text columns of the client row and of its brand rows. -/
def texts (record : ClientRecord) : List (Option String) :=
  let client := record.client
  [some record.slug, client.name, client.businessType, client.industry, client.website,
      client.location, client.timezone, client.language, client.markets, client.aboutBrand,
      client.brandVoice, client.brandExtracted, client.colorGuidelines, client.logoUrl] ++
    client.brandColors.map (fun color => some color.hex) ++
    client.brandFonts.map fun font => some font.family

/-- A text column holds no NUL character. -/
def holdsText (text : Option String) : Bool := text.all fun text => !text.toList.contains '\x00'

/-- The other text columns: the goals, the names of the colours, the register, the contacts and the
documents. -/
def sectionTexts (record : ClientRecord) : List (Option String) :=
  record.goals :: record.client.brandColors.map BrandColor.label ++
    record.complianceEntries.map (fun e => some e.entry.text) ++
    record.contacts.flatMap (fun c => [some c.name, c.role, c.department, c.email]) ++
    record.documents.flatMap fun d => [some d.name, d.mimeType, some d.storageUrl]

/-- The constraints of the rows of a client. -/
def Storable (record : ClientRecord) : Prop :=
  record.client.Storable ∧ record.slug.length ≤ 140 ∧
    (∀ text ∈ record.texts, holdsText text = true) ∧
    ∀ text ∈ record.sectionTexts, holdsText text = true

instance (record : ClientRecord) : Decidable record.Storable := by
  unfold Storable
  infer_instance

end ClientRecord

/-- What is committed of the clients and of their builds. -/
structure OnboardingTables where
  clients : List ClientRecord
  intelJobs : List IntelJob

namespace OnboardingTables

/-- The constraints a commit checks. -/
def Consistent (t : OnboardingTables) : Prop :=
  (∀ record ∈ t.clients, record.Storable) ∧ (t.clients.map ClientRecord.id).Nodup ∧
    (t.clients.map ClientRecord.slug).Nodup

instance (t : OnboardingTables) : Decidable t.Consistent := by
  unfold Consistent
  infer_instance

/-- `ClientRepository.get` -/
def get (t : OnboardingTables) (clientId : Uuid) : Option ClientRecord :=
  Table.get ClientRecord.id t.clients clientId

end OnboardingTables

/-- `_apply_basics` -/
def BasicsUpdate.apply {env : Environment} (data : BasicsUpdate env) (client : Client) : Client :=
  { client with
    name := data.name.text.onto client.name
    businessType := data.businessType.text.onto client.businessType
    industry := data.industry.text.onto client.industry
    website := data.website.text.onto client.website
    language := data.language.text.onto client.language
    location := data.location.text.onto client.location
    timezone := Patch.onto (data.timezone.map fun value => value.map Subtype.val) client.timezone
    markets := data.markets.text.onto client.markets }

namespace OnboardingService

/-- `_apply_compliance` — the feed is the one note of the register. -/
def applyCompliance (noteId : Uuid) (compliance : ComplianceIn) (entries : List RegisterEntry) :
    List RegisterEntry :=
  let feed := strip ((compliance.feed.map Subtype.val).getD "")
  let kept := entries.filter fun e => e.entry.kind ≠ .note
  if feed = "" then kept else kept ++ [⟨noteId, ⟨.note, feed, true⟩⟩]

/-- `_contacts` — a contact always has a name. -/
def contactRows (side : ContactSide) (contacts : List ContactIn) : List ClientContact :=
  contacts.map fun c =>
    ⟨side, c.name.val, c.role.map Subtype.val, c.department.map Subtype.val, c.email⟩

/-- `_replace_contacts` -/
def replaceContacts (side : ContactSide) (contacts : List ContactIn)
    (stored : List ClientContact) : List ClientContact :=
  (stored.filter fun c => c.side ≠ side) ++ contactRows side contacts

/-- A section that was sent and is not null is applied. -/
def whenSent {α β : Type} (sent : Patch α) (stored : β) (apply : α → β) : β :=
  match sent.read with
  | none => stored
  | some value => apply value

/-- The assignments of `update_step`. -/
def applyStep {env : Environment} (noteId : Uuid) (data : OnboardingStepUpdate env)
    (record : ClientRecord) : ClientRecord :=
  let client := whenSent data.basics record.client fun basics => basics.apply record.client
  let contacts := whenSent data.clientContacts record.contacts fun contacts =>
    replaceContacts .client contacts.val record.contacts
  { record with
    client := whenSent data.brand client fun brand => brand.apply client
    platforms := whenSent data.platforms record.platforms id
    goals := data.goals.text.onto record.goals
    complianceEntries := whenSent data.compliance record.complianceEntries fun compliance =>
      applyCompliance noteId compliance record.complianceEntries
    contacts := whenSent data.inworkContacts contacts fun inwork =>
      replaceContacts .inwork inwork.val contacts
    onboardingStep := match data.step with
      | none => record.onboardingStep
      | some step => max record.onboardingStep step.val }

/-- A commit, or what is raised when the database refuses it; a refused one is rolled back. -/
def commitOr (refused : Exc) (before after : OnboardingTables) : Outcome Unit × OnboardingTables :=
  if after.Consistent then (.ok (), after) else (.error refused, before)

/-- The conflict `_commit` reports. -/
def retry (errorMessage : String) : Exc := .app ⟨.conflict, errorMessage⟩

/-- A new client, and the build that is left for it when one is. -/
def addClient (errorMessage : String) (t : OnboardingTables) (record : ClientRecord)
    (intelJobs : List IntelJob) : Outcome ClientRecord × OnboardingTables :=
  let (saved, after) := commitOr (retry errorMessage) t ⟨t.clients ++ [record], intelJobs⟩
  (saved.map fun _ => record, after)

/-- What a write to one client flushes: the client, and its build. -/
def savedTables (env : Environment) (tick : Tick) (jobType : IntelJobType)
    (changedKeys : Option (List String)) (debounceSeconds : Int)
    (write : ClientRecord → ClientRecord) (clientId : Uuid) (t : OnboardingTables) :
    OnboardingTables where
  clients := Table.modify ClientRecord.id clientId write t.clients
  intelJobs := JobQueue.enqueue env tick clientId jobType changedKeys debounceSeconds t.intelJobs

/-- A write to one client and the build it leaves, in one transaction. -/
def saveClient (env : Environment) (tick : Tick) (refused : Exc) (jobType : IntelJobType)
    (changedKeys : Option (List String)) (debounceSeconds : Int)
    (write : ClientRecord → ClientRecord) (t : OnboardingTables) (record : ClientRecord) :
    Outcome ClientRecord × OnboardingTables :=
  let (saved, t) := commitOr refused t
    (savedTables env tick jobType changedKeys debounceSeconds write record.id t)
  (saved.map fun _ => write record, t)

/-- The slug a new client of this name gets. -/
def newSlug (lower : String → String) (t : OnboardingTables) (name : String) : String :=
  uniqueSlug (t.clients.map ClientRecord.slug) (slugify lower name "client")

/-- A client row of which the name, the website and the status are known. -/
def clientRow (tick : Tick) (name : String) (website : Option String) (status : ClientStatus) :
    Client where
  id := tick.rowId
  name := some name
  businessType := none
  industry := none
  website := website
  location := none
  timezone := none
  language := none
  markets := none
  aboutBrand := none
  brandVoice := none
  brandExtracted := none
  colorGuidelines := none
  logoUrl := none
  status := some status
  updatedAt := tick.now
  brandColors := []
  brandFonts := []

/-- A client with nothing around its row. -/
def bareRecord (slug : String) (step : Nat) (client : Client) : ClientRecord where
  slug := slug
  onboardingStep := step
  client := client
  goals := none
  platforms := []
  complianceEntries := []
  contacts := []
  documents := []

/-- The rows of a new draft. -/
def newDraft (lower : String → String) (tick : Tick) (t : OnboardingTables)
    (name website : String) : ClientRecord :=
  bareRecord (newSlug lower t name) 1 (clientRow tick name (some website) .draft)

/-- `create_draft_minimal` -/
def createDraftMinimal (lower : String → String) (tick : Tick) (t : OnboardingTables)
    (name website : String) : Outcome ClientRecord × OnboardingTables :=
  addClient "Could not start onboarding — please retry." t (newDraft lower tick t name website)
    t.intelJobs

/-- The basics of a new client. -/
def basicsRow {env : Environment} (tick : Tick) (data : OnboardingDraftRequest env)
    (status : ClientStatus) : Client :=
  { clientRow tick data.name.val (data.website.map Subtype.val) status with
    businessType := some data.businessType.val
    industry := some data.industry.val
    language := data.language.map Subtype.val
    location := data.location.map Subtype.val
    timezone := data.timezone.map Subtype.val
    markets := data.markets.map Subtype.val }

/-- `create_draft` -/
def createDraft (lower : String → String) (tick : Tick) (t : OnboardingTables)
    {env : Environment} (data : OnboardingDraftRequest env) :
    Outcome ClientRecord × OnboardingTables :=
  addClient "Could not start onboarding — please retry." t
    (bareRecord (newSlug lower t data.name.val) 1 (basicsRow tick data .draft)) t.intelJobs

/-- The rows of attached documents. -/
def documentRows (docId : Nat → Uuid) (documents : List DocumentRef) : List Document :=
  documents.mapIdx fun n d => ⟨docId n, d.name.val, d.mimeType.map Subtype.val, d.storageUrl.val⟩

/-- `FINAL_STEP` -/
def finalStep : Nat := 8

/-- The rows of a client created complete in one shot. -/
def onboarded {env : Environment} (tick : Tick) (docId : Nat → Uuid) (slug : String)
    (data : OnboardingRequest env) : ClientRecord where
  slug := slug
  onboardingStep := finalStep
  client :=
    { basicsRow tick data.basics .active with
      aboutBrand := data.brand.aboutBrand.map Subtype.val
      brandVoice := some data.brand.brandVoice.val
      brandExtracted := data.brand.brandExtracted.map Subtype.val
      colorGuidelines := data.brand.colorGuidelines.map Subtype.val
      logoUrl := data.brand.logoUrl.map Subtype.val
      brandColors := BrandUpdate.colorRows data.brand.colors.val
      brandFonts := BrandUpdate.fontRows data.brand.fonts.val }
  goals := data.goals.map Subtype.val
  platforms := data.platforms
  complianceEntries := applyCompliance tick.auditId data.compliance []
  contacts := contactRows .client data.clientContacts.val ++ contactRows .inwork data.inworkContacts
  documents := documentRows docId data.documents

/-- `onboard` -/
def onboard (lower : String → String) (env : Environment) (tick : Tick) (docId : Nat → Uuid)
    (t : OnboardingTables) (data : OnboardingRequest env) :
    Outcome ClientRecord × OnboardingTables :=
  addClient "Could not create client — please retry." t
    (onboarded tick docId (newSlug lower t data.basics.name.val) data)
    (JobQueue.enqueue env tick tick.rowId .fullBuild none 0 t.intelJobs)

/-- The record a step leaves. -/
def stepped {env : Environment} (tick : Tick) (data : OnboardingStepUpdate env)
    (record : ClientRecord) : ClientRecord :=
  record.touch tick.now (applyStep tick.rowId data record)

/-- `update_step`, of the client as it is stored. -/
def updateStep (env : Environment) (tick : Tick) (t : OnboardingTables) (record : ClientRecord)
    (data : OnboardingStepUpdate env) : Outcome ClientRecord × OnboardingTables :=
  saveClient env tick (retry "Could not save onboarding step — please retry.") .incremental
    (some data.sections) 5 (stepped tick data) t record

/-- `add_documents` -/
def addDocuments (env : Environment) (tick : Tick) (docId : Nat → Uuid) (t : OnboardingTables)
    (record : ClientRecord) (data : DocumentsRequest) : Outcome ClientRecord × OnboardingTables :=
  saveClient env tick (retry "Could not attach documents — please retry.") .incremental
    (some ["documents"]) 5
    (fun row => { row with documents := row.documents ++ documentRows docId data.val }) t record

/-- `remove_document` -/
def removeDocument (env : Environment) (tick : Tick) (t : OnboardingTables)
    (record : ClientRecord) (documentId : Uuid) : Outcome ClientRecord × OnboardingTables :=
  if Table.has Document.id record.documents documentId then
    saveClient env tick (retry "Could not remove the document — please retry.") .incremental
      (some ["documents"]) 5
      (fun row => { row with documents := Table.remove Document.id documentId row.documents })
      t record
  else (notFound "Document not found.", t)

/-- The record `complete` leaves. -/
def completed (tick : Tick) (record : ClientRecord) : ClientRecord :=
  let status := if record.client.status = some .draft then some .active else record.client.status
  record.touch tick.now
    { record with onboardingStep := finalStep, client := { record.client with status } }

/-- `complete` -/
def complete (env : Environment) (tick : Tick) (t : OnboardingTables) (record : ClientRecord) :
    Outcome ClientRecord × OnboardingTables :=
  saveClient env tick (retry "Could not finalize onboarding — please retry.") .fullBuild none 0
    (completed tick) t record

/-- The record a brand edit leaves. -/
def branded (tick : Tick) (data : BrandUpdate) (record : ClientRecord) : ClientRecord :=
  record.touch tick.now { record with client := data.apply record.client }

/-- `_apply_update_brand` and the commit of its caller. -/
def updateBrand (env : Environment) (tick : Tick) (t : OnboardingTables) (record : ClientRecord)
    (data : BrandUpdate) : Outcome ClientRecord × OnboardingTables :=
  saveClient env tick (.other .dbapiError) .incremental (some ["brand"]) 5 (branded tick data) t
    record

end OnboardingService

namespace ClientService

/-- The record a client edit leaves. -/
def edited {env : Environment} (tick : Tick) (data : ClientUpdate env) (record : ClientRecord) :
    ClientRecord :=
  record.touch tick.now { record with client := data.apply record.client }

/-- The diff of a client edit. -/
def editChanges {env : Environment} (data : ClientUpdate env) (record : ClientRecord) :
    Option Changes :=
  fieldChanges record.client.auditValues (data.apply record.client).auditValues

/-- `update_client` — an edit that changes nothing leaves no build. -/
def updateClient (env : Environment) (tick : Tick) (t : OnboardingTables) (record : ClientRecord)
    (data : ClientUpdate env) : Outcome ClientRecord × OnboardingTables :=
  match editChanges data record with
  | none =>
    let (saved, t) := OnboardingService.commitOr (.other .dbapiError) t
      { t with clients := Table.modify ClientRecord.id record.id (edited tick data) t.clients }
    (saved.map fun _ => edited tick data record, t)
  | some changed =>
    OnboardingService.saveClient env tick (.other .dbapiError) .incremental
      (some ((changed.map Prod.fst).mergeSort fun a b => a ≤ b)) 5 (edited tick data) t record

end ClientService

/-! ## What a step leaves -/

namespace ClientRecord

/-- A flush moves nothing but `updated_at`. -/
theorem touch_eq (now : Timestamp) (before after : ClientRecord) : ∃ moment,
    before.touch now after =
      { after with client := { after.client with updatedAt := moment } } := by
  unfold touch
  split
  · exact ⟨after.client.updatedAt, rfl⟩
  · exact ⟨now, rfl⟩

/-- A flushed record keeps its identifier. -/
@[simp] theorem id_touch (now : Timestamp) (before after : ClientRecord) :
    (before.touch now after).id = after.id := by
  obtain ⟨moment, same⟩ := touch_eq now before after
  rw [same]
  rfl

/-- A flushed record keeps its slug. -/
@[simp] theorem slug_touch (now : Timestamp) (before after : ClientRecord) :
    (before.touch now after).slug = after.slug := by
  obtain ⟨moment, same⟩ := touch_eq now before after
  rw [same]

/-- A flush is not seen by the constraints. -/
@[simp] theorem storable_touch (now : Timestamp) (before after : ClientRecord) :
    (before.touch now after).Storable ↔ after.Storable := by
  obtain ⟨moment, same⟩ := touch_eq now before after
  rw [same]
  rfl

end ClientRecord

namespace OnboardingService

/-- A step keeps the identifier of the client. -/
@[simp] theorem id_applyStep {env : Environment} (noteId : Uuid) (data : OnboardingStepUpdate env)
    (record : ClientRecord) : (applyStep noteId data record).id = record.id := by
  simp only [applyStep, ClientRecord.id, whenSent]
  cases data.basics.read <;> cases data.brand.read <;> rfl

/-- A step keeps the slug of the client. -/
@[simp] theorem slug_applyStep {env : Environment} (noteId : Uuid)
    (data : OnboardingStepUpdate env) (record : ClientRecord) :
    (applyStep noteId data record).slug = record.slug := rfl

variable {env : Environment} {tick : Tick} {t : OnboardingTables} {record : ClientRecord}

/-- A new client with a new slug is accepted when it meets its constraints and its identifier is
free. -/
theorem consistent_concat_iff (consistent : t.Consistent)
    (fresh : record.slug ∉ t.clients.map ClientRecord.slug) :
    OnboardingTables.Consistent { t with clients := t.clients ++ [record] } ↔
      record.Storable ∧ t.get record.id = none := by
  obtain ⟨rows, ids, slugs⟩ := consistent
  have free : t.get record.id = none ↔ record.id ∉ t.clients.map ClientRecord.id := by
    simp [OnboardingTables.get, Table.get, List.find?_eq_none]
  rw [free]
  constructor
  · rintro ⟨accepted, distinct, -⟩
    rw [List.map_append, List.nodup_append] at distinct
    refine ⟨accepted record (List.mem_append_right _ (List.mem_singleton_self _)), fun taken => ?_⟩
    exact distinct.2.2 _ taken _ (List.mem_singleton_self _) rfl
  · rintro ⟨storable, absent⟩
    refine ⟨?_, ?_, ?_⟩
    · intro row inside
      obtain old | new := List.mem_append.mp inside
      · exact rows row old
      · rw [List.mem_singleton.mp new]
        exact storable
    · rw [List.map_append, List.nodup_append]
      refine ⟨ids, List.nodup_singleton _, ?_⟩
      rintro old inside _ new rfl
      exact absent (List.mem_singleton.mp new ▸ inside)
    · rw [List.map_append, List.nodup_append]
      refine ⟨slugs, List.nodup_singleton _, ?_⟩
      rintro old inside _ new rfl
      exact fresh (List.mem_singleton.mp new ▸ inside)

/-- A draft that meets its constraints, under a free identifier, is saved. -/
theorem createDraftMinimal_saved (consistent : t.Consistent) {lower : String → String}
    {name website : String} (storable : (newDraft lower tick t name website).Storable)
    (free : t.get (newDraft lower tick t name website).id = none) :
    ∃ after, createDraftMinimal lower tick t name website =
        (.ok (newDraft lower tick t name website), after) ∧ after.Consistent ∧
      after.get (newDraft lower tick t name website).id =
        some (newDraft lower tick t name website) := by
  have fresh : (newDraft lower tick t name website).slug ∉ t.clients.map ClientRecord.slug :=
    uniqueSlug_not_mem _ _
  have saved := (consistent_concat_iff consistent fresh).mpr ⟨storable, free⟩
  refine ⟨_, ?_, saved, ?_⟩
  · rw [createDraftMinimal, addClient, commitOr, if_pos saved]
    rfl
  · exact Table.get_of_mem saved.2.1 (List.mem_append_right _ (List.mem_singleton_self _))

/-- Any other draft is refused. -/
theorem createDraftMinimal_refused (consistent : t.Consistent) {lower : String → String}
    {name website : String} (bad : ¬((newDraft lower tick t name website).Storable ∧
      t.get (newDraft lower tick t name website).id = none)) :
    createDraftMinimal lower tick t name website =
      (conflict "Could not start onboarding — please retry.", t) := by
  have fresh : (newDraft lower tick t name website).slug ∉ t.clients.map ClientRecord.slug :=
    uniqueSlug_not_mem _ _
  rw [createDraftMinimal, addClient, commitOr,
    if_neg fun saved => bad ((consistent_concat_iff consistent fresh).mp saved)]
  rfl

/-- A new client is added, or nothing is changed. -/
theorem addClient_leaves {errorMessage : String} {intelJobs : List IntelJob}
    {out : Outcome ClientRecord} {after : OnboardingTables}
    (run : addClient errorMessage t record intelJobs = (out, after)) :
    (out = .ok record ∧ after = ⟨t.clients ++ [record], intelJobs⟩) ∨
      (out = .error (retry errorMessage) ∧ after = t) := by
  rw [addClient, commitOr] at run
  by_cases accepted : OnboardingTables.Consistent ⟨t.clients ++ [record], intelJobs⟩
  · rw [if_pos accepted] at run
    exact .inl ⟨(Prod.mk.inj run).1.symm, (Prod.mk.inj run).2.symm⟩
  · rw [if_neg accepted] at run
    exact .inr ⟨(Prod.mk.inj run).1.symm, (Prod.mk.inj run).2.symm⟩

/-- A step keeps the identifier of the client. -/
@[simp] theorem id_stepped (data : OnboardingStepUpdate env) (record : ClientRecord) :
    (stepped tick data record).id = record.id := by
  simp [stepped]

/-- A step keeps the slug of the client. -/
@[simp] theorem slug_stepped (data : OnboardingStepUpdate env) (record : ClientRecord) :
    (stepped tick data record).slug = record.slug := by
  simp [stepped]

/-- A write that keeps the identifier and the slug and meets the constraints is saved. -/
theorem saveClient_saved (consistent : t.Consistent) (stored : t.get record.id = some record)
    {refused : Exc} {jobType : IntelJobType} {changedKeys : Option (List String)}
    {debounceSeconds : Int} {write : ClientRecord → ClientRecord}
    (keepsId : ∀ row, (write row).id = row.id) (keepsSlug : ∀ row, (write row).slug = row.slug)
    (storable : (write record).Storable) :
    ∃ after, saveClient env tick refused jobType changedKeys debounceSeconds write t record =
        (.ok (write record), after) ∧
      after.get record.id = some (write record) := by
  obtain ⟨rows, ids, slugs⟩ := consistent
  have accepted : (savedTables env tick jobType changedKeys debounceSeconds write record.id
      t).Consistent := by
    refine ⟨?_, ?_, ?_⟩
    · intro row written
      obtain ⟨old, -⟩ | ⟨old, inside, same, rfl⟩ := Table.mem_modify.mp written
      · exact rows row old
      · have found : t.get old.id = some old := Table.get_of_mem ids inside
        rw [same, stored] at found
        rw [← Option.some.inj found]
        exact storable
    · rw [savedTables, Table.map_modify _ ClientRecord.id fun row _ => keepsId row]
      exact ids
    · rw [savedTables, Table.map_modify _ ClientRecord.slug fun row _ => keepsSlug row]
      exact slugs
  refine ⟨savedTables env tick jobType changedKeys debounceSeconds write record.id t, ?_, ?_⟩
  · rw [saveClient, commitOr, if_pos accepted]
    rfl
  · rw [OnboardingTables.get, savedTables,
      Table.get_modify_same fun row same => (keepsId row).trans same]
    rw [OnboardingTables.get] at stored
    rw [stored, Option.map_some]

/-- A write that does not meet the constraints is refused. -/
theorem saveClient_refused (stored : t.get record.id = some record)
    {refused : Exc} {jobType : IntelJobType} {changedKeys : Option (List String)}
    {debounceSeconds : Int} {write : ClientRecord → ClientRecord}
    (unstorable : ¬(write record).Storable) :
    saveClient env tick refused jobType changedKeys debounceSeconds write t record =
      (.error refused, t) := by
  have bad : ¬(savedTables env tick jobType changedKeys debounceSeconds write record.id
      t).Consistent := by
    intro accepted
    exact unstorable (accepted.1 _ (Table.mem_modify.mpr
      (.inr ⟨record, Table.get_mem stored, rfl, rfl⟩)))
  rw [saveClient, commitOr, if_neg bad]
  rfl

/-- A write to a client leaves what it flushes, or nothing when it raises. -/
theorem saveClient_leaves {refused : Exc} {jobType : IntelJobType}
    {changedKeys : Option (List String)} {debounceSeconds : Int}
    {write : ClientRecord → ClientRecord} {out : Outcome ClientRecord} {after : OnboardingTables}
    (run : saveClient env tick refused jobType changedKeys debounceSeconds write t record =
      (out, after)) :
    (out = .ok (write record) ∧
        after = savedTables env tick jobType changedKeys debounceSeconds write record.id t) ∨
      (out = .error refused ∧ after = t) := by
  rw [saveClient, commitOr] at run
  by_cases accepted : (savedTables env tick jobType changedKeys debounceSeconds write record.id
      t).Consistent
  · rw [if_pos accepted] at run
    exact .inl ⟨(Prod.mk.inj run).1.symm, (Prod.mk.inj run).2.symm⟩
  · rw [if_neg accepted] at run
    exact .inr ⟨(Prod.mk.inj run).1.symm, (Prod.mk.inj run).2.symm⟩

end OnboardingService

end MarketingOS
