import MarketingOS.Verif.FoundFields

/-!
# Filling blanks from a website

When the website auto-fill does what it is for: it returns, the fields that had a value keep it, and
the fields it reports are the ones it changed. The schemas of the step bound what a page and a model
may say, and they are asked only after the new draft is committed.
-/
namespace MarketingOS.ClientDiscoveryService

open BrandExtractionService OnboardingService

/-! ## Statement -/

/-- What an onboarding field holds. -/
inductive FieldValue where
  | text (value : Option String)
  | colors (rows : List BrandColor)
  | fonts (rows : List BrandFont)
deriving DecidableEq

/-- A field that counts as empty. -/
def FieldValue.empty : FieldValue → Bool
  | .text value => isEmpty value
  | .colors rows => rows = []
  | .fonts rows => rows = []

/-- The basics and the brand fields, under the paths a result names them by. -/
def onboardingFields : List (String × (Client → FieldValue)) :=
  [("basics.name", fun client => .text client.name),
    ("basics.website", fun client => .text client.website),
    ("basics.location", fun client => .text client.location),
    ("basics.industry", fun client => .text client.industry),
    ("basics.business_type", fun client => .text client.businessType),
    ("basics.language", fun client => .text client.language),
    ("basics.timezone", fun client => .text client.timezone),
    ("basics.markets", fun client => .text client.markets),
    ("brand.about_brand", fun client => .text client.aboutBrand),
    ("brand.brand_voice", fun client => .text client.brandVoice),
    ("brand.logo_url", fun client => .text client.logoUrl),
    ("brand.colors", fun client => .colors client.brandColors),
    ("brand.fonts", fun client => .fonts client.brandFonts),
    ("brand.brand_extracted", fun client => .text client.brandExtracted),
    ("brand.color_guidelines", fun client => .text client.colorGuidelines)]

/-- A result fills blanks: a field that had a value keeps it, the step stays, and exactly the
changed fields are reported, with the name of a new draft. -/
structure FillsBlanks (before : ClientRecord) (result : AutoFillResult) : Prop where
  kept : ∀ field ∈ onboardingFields, (field.2 before.client).empty = false →
    field.2 result.client.client = field.2 before.client
  step : result.client.onboardingStep = before.onboardingStep
  named : ∀ path, path ∈ result.filled ↔ (result.created = true ∧ path = "basics.name") ∨
    ∃ field ∈ onboardingFields, field.1 = path ∧
      field.2 result.client.client ≠ field.2 before.client

variable {ν : Type} (lib : Library ν) (env : Environment)

/-- The client as it is before it is filled: the stored one, or the new draft. -/
def opened (draftTick : Tick) (data : AutoFillRequest) (sig : Signals) (t : OnboardingTables) :
    Option ClientRecord :=
  match data.clientId with
  | some clientId => t.get clientId
  | none => (draftName lib data sig.identity).map fun name =>
    newDraft lib.builtins.lower draftTick t name data.website.val

/-- The auto-fill returns what it stored, and fills blanks. -/
def AutoFills (draftTick tick : Tick) (configured : Bool) (sig : Signals)
    (answer : Option (List (String × JsonValue ν))) (data : AutoFillRequest)
    (t : OnboardingTables) : Prop :=
  ∃ before result after, opened lib draftTick data sig t = some before ∧
    autoFill lib env draftTick tick configured sig answer data t = (.ok result, after) ∧
    after.get before.id = some result.client ∧ result.created = data.clientId.isNone ∧
    FillsBlanks before result

/-- What is found for an empty column keeps to a length, holds no NUL, and is not the blank text
that is stored. -/
def Suits (limit : Nat) (stored found : Option String) : Prop :=
  ∀ value ∈ fill stored found, value.length ≤ limit ∧
    ClientRecord.holdsText (some value) = true ∧ stored ≠ some value

/-- What is found suits the schemas and the columns it is saved through. -/
structure Suited (before : ClientRecord) (data : AutoFillRequest) (sig : Signals)
    (result : BrandExtraction) : Prop where
  name : data.clientId.isSome → Suits 160 before.client.name (foundName data sig.identity)
  website : Suits 255 before.client.website (some data.website.val)
  location : Suits 160 before.client.location (sig.identity.bind Web.IdentitySignals.location)
  industry : Suits 120 before.client.industry result.suggestedIndustry
  businessType : Suits 120 before.client.businessType result.suggestedBusinessType
  aboutBrand : Suits maxText before.client.aboutBrand (aboutBrand result sig.description)
  brandVoice : Suits maxLongLine before.client.brandVoice result.tone
  logoUrl : Suits 1024 before.client.logoUrl (sig.identity.bind Web.IdentitySignals.logoUrl)
  colors : ∀ colors ∈ fillColors before.client result,
    ∀ color ∈ colors, isHexColor color = true
  fonts : ∀ fonts ∈ fillFonts before.client result,
    (∀ family ∈ fonts, strip family ≠ "" →
      family.length ≤ 120 ∧ ClientRecord.holdsText (some family) = true) ∧
    ∃ family ∈ fonts, strip family ≠ ""

/-- The website is named, the answer holds lists where lists are read, a new draft meets the
constraints of its row, and what is found suits. -/
def Fillable (draftTick : Tick) (configured : Bool) (sig : Signals)
    (answer : Option (List (String × JsonValue ν))) (data : AutoFillRequest)
    (t : OnboardingTables) : Prop :=
  strip data.website.val ≠ "" ∧
    ∃ before result, opened lib draftTick data sig t = some before ∧
      finish lib.builtins configured data.website.val sig answer = .ok result ∧
      (data.clientId = none → before.Storable ∧ t.get before.id = none) ∧
      Suited before data sig result

/-! ## Saving what was found -/

section Saving

variable {data : AutoFillRequest} {sig : Signals} {result : BrandExtraction}

/-- What was found passes the schemas and the constraints of its rows. -/
structure Passes (client : Client) (data : AutoFillRequest) (sig : Signals)
    (result : BrandExtraction) : Prop where
  basics : BasicsBounded client data result sig.identity
  brand : BrandBounded client result sig.identity sig.description
  savable : Savable client data result sig.identity sig.description

/-- A record with everything that was found, flushed at some moment. -/
def FilledAt (record : ClientRecord) (data : AutoFillRequest) (sig : Signals)
    (result : BrandExtraction) (filled : ClientRecord) : Prop :=
  ∃ moment, filled = { record with client :=
    { filledClient record.client data result sig.identity sig.description with
      updatedAt := moment } }

/-- Nothing found passes, and leaves the client as it is. -/
theorem passes_of_blank {client : Client}
    (basics : (Json.sparse (basicsPatch client data result sig.identity)).isEmpty = true)
    (brand : (Json.sparse (brandPatch client result sig.identity sig.description)).isEmpty = true) :
    Passes client data sig result ∧
      filledClient client data result sig.identity sig.description = client := by
  have noBasics := sparse_isEmpty_iff.mp basics
  have noBrand := sparse_isEmpty_iff.mp brand
  simp only [basicsPatch, brandPatch, List.forall_mem_cons, Option.map_eq_none_iff]
    at noBasics noBrand
  obtain ⟨name, website, location, industry, businessType, -⟩ := noBasics
  obtain ⟨aboutBrand, brandVoice, logoUrl, colors, fonts, -⟩ := noBrand
  refine ⟨⟨?_, ?_, ?_⟩, ?_⟩
  · constructor <;> simp [*]
  · constructor <;> simp [*]
  · constructor <;> simp [*]
  · simp [filledClient, withBasics, withBrand, *]

variable {t : OnboardingTables} {record : ClientRecord} {tick : Tick}

/-- What was found is saved exactly when it passes, and the record is then filled. -/
theorem save_spec (env : Environment) (tick : Tick) (data : AutoFillRequest) (sig : Signals)
    (result : BrandExtraction) (consistent : t.Consistent)
    (stored : t.get record.id = some record) :
    (Passes record.client data sig result → ∃ filled after,
      save env tick t record (Json.sparse (basicsPatch record.client data result sig.identity))
        (Json.sparse (brandPatch record.client result sig.identity sig.description)) =
        (.ok filled, after) ∧
      after.get record.id = some filled ∧ FilledAt record data sig result filled) ∧
    (¬Passes record.client data sig result → ∃ exc,
      save env tick t record (Json.sparse (basicsPatch record.client data result sig.identity))
        (Json.sparse (brandPatch record.client result sig.identity sig.description)) =
        (.error exc, t)) := by
  by_cases blank :
      (Json.sparse (basicsPatch record.client data result sig.identity)).isEmpty = true ∧
      (Json.sparse (brandPatch record.client result sig.identity sig.description)).isEmpty = true
  · obtain ⟨passes, same⟩ := passes_of_blank blank.1 blank.2
    refine ⟨fun _ => ⟨record, t, ?_, stored, record.client.updatedAt, ?_⟩,
      fun fails => absurd passes fails⟩
    · simp only [save, blank.1, blank.2, Bool.and_self, ↓reduceIte]
    · rw [same]
  · have some : ((Json.sparse (basicsPatch record.client data result sig.identity)).isEmpty &&
        (Json.sparse (brandPatch record.client result sig.identity sig.description)).isEmpty) =
        false := by
      rw [← Bool.not_eq_true, Bool.and_eq_true]
      exact blank
    simp only [save, some, Bool.false_eq_true, ↓reduceIte]
    cases built : stepUpdate env (Json.sparse (basicsPatch record.client data result sig.identity))
        (Json.sparse (brandPatch record.client result sig.identity sig.description)) with
    | error exc =>
      refine ⟨fun passes => ?_, fun _ => ⟨exc, rfl⟩⟩
      obtain ⟨update, returned⟩ := (stepUpdate_ok_iff env record.client data result sig.identity
        sig.description).mpr ⟨passes.basics, passes.brand⟩
      rw [built] at returned
      cases returned
    | ok update =>
      have bounded := (stepUpdate_ok_iff env record.client data result sig.identity
        sig.description).mp ⟨update, built⟩
      have applied := applyStep_of_stepUpdate env data result sig.identity sig.description
        tick.rowId record built
      have before := consistent.1 record (Table.get_mem stored)
      have storable : (stepped tick update record).Storable ↔
          Savable record.client data result sig.identity sig.description := by
        rw [stepped, ClientRecord.storable_touch, applied]
        exact storable_filled_iff data result sig.identity sig.description before bounded.1
          bounded.2
      constructor
      · intro passes
        obtain ⟨after, saved, found⟩ :=
          saveClient_saved consistent stored (id_stepped update) (slug_stepped update)
            (storable.mpr passes.savable)
        refine ⟨_, after, saved, found, ?_⟩
        obtain ⟨moment, same⟩ :=
          ClientRecord.touch_eq tick.now record (applyStep tick.rowId update record)
        refine ⟨moment, ?_⟩
        rw [stepped, same, applied]
      · intro fails
        have unstorable : ¬(stepped tick update record).Storable :=
          fun good => fails ⟨bounded.1, bounded.2, storable.mp good⟩
        exact ⟨_, saveClient_refused stored unstorable⟩

/-! ## What is reported -/

/-- The fields in the order of the statement, with whether a patch carries them. -/
def patched (client : Client) (data : AutoFillRequest) (sig : Signals)
    (result : BrandExtraction) : List (String × Bool) :=
  [("basics.name", (fill client.name (foundName data sig.identity)).isSome),
    ("basics.website", (fill client.website (some data.website.val)).isSome),
    ("basics.location",
      (fill client.location (sig.identity.bind Web.IdentitySignals.location)).isSome),
    ("basics.industry", (fill client.industry result.suggestedIndustry).isSome),
    ("basics.business_type", (fill client.businessType result.suggestedBusinessType).isSome),
    ("brand.about_brand", (fill client.aboutBrand (aboutBrand result sig.description)).isSome),
    ("brand.brand_voice", (fill client.brandVoice result.tone).isSome),
    ("brand.logo_url",
      (fill client.logoUrl (sig.identity.bind Web.IdentitySignals.logoUrl)).isSome),
    ("brand.colors", (fillColors client result).isSome),
    ("brand.fonts", (fillFonts client result).isSome)]

/-- The paths of a section are those of the entries with a document. -/
theorem mem_section (front path : String) (entries : List (String × Option Json)) :
    path ∈ (Json.sparse entries).map (fun entry => front ++ entry.1) ↔
      ∃ entry ∈ entries, path = front ++ entry.1 ∧ entry.2.isSome = true := by
  simp only [Json.sparse, List.mem_map, List.mem_filterMap, Option.map_eq_some_iff,
    Option.isSome_iff_exists]
  constructor
  · rintro ⟨_, ⟨entry, inside, document, there, rfl⟩, rfl⟩
    exact ⟨entry, inside, rfl, document, there⟩
  · rintro ⟨entry, inside, rfl, document, there⟩
    exact ⟨_, ⟨entry, inside, document, there, rfl⟩, rfl⟩

/-- A path is saved when its patch carries it. -/
theorem mem_paths (client : Client) (path : String) :
    path ∈ paths (Json.sparse (basicsPatch client data result sig.identity))
      (Json.sparse (brandPatch client result sig.identity sig.description)) ↔
      (path, true) ∈ patched client data sig result := by
  rw [paths, List.mem_append, mem_section, mem_section]
  simp [basicsPatch, brandPatch, patched, eq_comm (a := true), or_assoc]

/-- A path is reported when it is saved, or is the name of a new draft. -/
theorem mem_reported (created : Bool) (filled : List String) (path : String) :
    path ∈ reported created filled ↔
      (created = true ∧ path = "basics.name") ∨ path ∈ filled := by
  unfold reported
  cases created with
  | false => simp
  | true =>
    by_cases there : "basics.name" ∈ filled
    · simp only [List.contains_eq_mem, there, decide_true, Bool.not_true, Bool.and_false,
        Bool.false_eq_true, ↓reduceIte, true_and]
      exact ⟨.inr, fun either => either.elim (fun same => same ▸ there) id⟩
    · simp [there]

/-- What is found for an empty column is not the blank text that is stored. -/
def Differs (stored found : Option String) : Prop :=
  ∀ value ∈ fill stored found, stored ≠ some value

/-- A patched column is a changed one when what is found differs. -/
theorem text_changed_iff (stored found : Option String) :
    ((fill stored found).isSome = true ↔
      FieldValue.text ((fill stored found).or stored) ≠ .text stored) ↔ Differs stored found := by
  unfold Differs
  cases fill stored found with
  | none => simp
  | some value => simp [eq_comm]

/-- Patched colours are changed ones. -/
theorem colors_changed (result : BrandExtraction) (client : Client) :
    (fillColors client result).isSome = true ↔
      FieldValue.colors (((fillColors client result).map paintedRows).getD client.brandColors) ≠
        .colors client.brandColors := by
  unfold fillColors
  split
  · next there =>
    obtain ⟨none, some⟩ := there
    have rows : paintedRows (result.colors.take 4) ≠ [] := by
      rw [paintedRows, List.mapIdx_ne_nil_iff]
      simpa using some
    simpa [none] using rows
  · simp

/-- Patched fonts are changed ones when one of them has a name. -/
theorem fonts_changed_iff (client : Client) :
    ((fillFonts client result).isSome = true ↔
      FieldValue.fonts (((fillFonts client result).map BrandUpdate.fontRows).getD
        client.brandFonts) ≠ .fonts client.brandFonts) ↔
      ∀ fonts ∈ fillFonts client result, ∃ family ∈ fonts, strip family ≠ "" := by
  cases found : fillFonts client result with
  | none => simp
  | some fonts =>
    have none : client.brandFonts = [] := by
      unfold fillFonts at found
      split at found
      · next there => exact there.1
      · cases found
    simp [none, BrandUpdate.fontRows]

/-- The paths that are reported are those of the changed fields when each field is reported exactly
if it is changed, exempt ones apart. -/
theorem reports_iff {β : Type} {fields : List (String × β)}
    (distinct : (fields.map Prod.fst).Nodup) (exempt : String → Prop) (changed : β → Prop)
    {flagged : String → Prop} (known : ∀ path, flagged path → path ∈ fields.map Prod.fst) :
    (∀ path, exempt path ∨ flagged path ↔
      exempt path ∨ ∃ field ∈ fields, field.1 = path ∧ changed field.2) ↔
      ∀ field ∈ fields, exempt field.1 ∨ (flagged field.1 ↔ changed field.2) := by
  constructor
  · intro named field inside
    by_cases free : exempt field.1
    · exact .inl free
    · refine .inr ⟨fun flag => ?_, fun change => ?_⟩
      · obtain other | ⟨other, listed, same, change⟩ := (named field.1).mp (.inr flag)
        · exact absurd other free
        · exact List.inj_on_of_nodup_map distinct listed inside same ▸ change
      · obtain other | flag := (named field.1).mpr (.inr ⟨field, inside, rfl, change⟩)
        · exact absurd other free
        · exact flag
  · intro each path
    constructor
    · rintro (free | flag)
      · exact .inl free
      · obtain ⟨field, inside, rfl⟩ := List.mem_map.mp (known path flag)
        obtain free | same := each field inside
        · exact .inl free
        · exact .inr ⟨field, inside, rfl, same.mp flag⟩
    · rintro (free | ⟨field, inside, rfl, change⟩)
      · exact .inl free
      · exact (each field inside).imp_right fun same => same.mpr change

/-- Exactly the changed fields are reported when what is found differs from the blanks. -/
theorem named_iff {created : Bool} {record filled : ClientRecord}
    (there : FilledAt record data sig result filled) :
    (∀ path, path ∈ reported created
        (paths (Json.sparse (basicsPatch record.client data result sig.identity))
          (Json.sparse (brandPatch record.client result sig.identity sig.description))) ↔
      (created = true ∧ path = "basics.name") ∨
        ∃ field ∈ onboardingFields, field.1 = path ∧
          field.2 filled.client ≠ field.2 record.client) ↔
      (created = false → Differs record.client.name (foundName data sig.identity)) ∧
      Differs record.client.website (some data.website.val) ∧
      Differs record.client.location (sig.identity.bind Web.IdentitySignals.location) ∧
      Differs record.client.industry result.suggestedIndustry ∧
      Differs record.client.businessType result.suggestedBusinessType ∧
      Differs record.client.aboutBrand (aboutBrand result sig.description) ∧
      Differs record.client.brandVoice result.tone ∧
      Differs record.client.logoUrl (sig.identity.bind Web.IdentitySignals.logoUrl) ∧
      ∀ fonts ∈ fillFonts record.client result, ∃ family ∈ fonts, strip family ≠ "" := by
  have distinct : (onboardingFields.map Prod.fst).Nodup := by
    simp only [onboardingFields, List.map_cons, List.map_nil]
    decide
  have known : ∀ path, (path, true) ∈ patched record.client data sig result →
      path ∈ onboardingFields.map Prod.fst := by
    intro path inside
    have key := List.mem_map_of_mem (f := Prod.fst) inside
    simp only [patched, List.map_cons, List.map_nil] at key
    have covers : ["basics.name", "basics.website", "basics.location", "basics.industry",
        "basics.business_type", "brand.about_brand", "brand.brand_voice", "brand.logo_url",
        "brand.colors", "brand.fonts"] ⊆ onboardingFields.map Prod.fst := by
      simp only [onboardingFields, List.map_cons, List.map_nil]
      decide
    exact covers key
  simp only [mem_reported, mem_paths]
  rw [reports_iff distinct (fun path => created = true ∧ path = "basics.name")
    (fun read => read filled.client ≠ read record.client) known]
  obtain ⟨moment, rfl⟩ := there
  have colors := colors_changed result record.client
  simp only [← text_changed_iff, ← fonts_changed_iff]
  simp only [onboardingFields, List.forall_mem_cons]
  simp only [patched, filledClient, withBrand, withBasics]
  simp [colors]
  -- what is left is the name, which a new draft is exempt from
  intros
  cases created <;> simp

/-- A field that had a value keeps it. -/
theorem kept_of_filled {record filled : ClientRecord}
    (there : FilledAt record data sig result filled) :
    ∀ field ∈ onboardingFields, (field.2 record.client).empty = false →
      field.2 filled.client = field.2 record.client := by
  obtain ⟨moment, rfl⟩ := there
  have text (stored found : Option String) (some : isEmpty stored = false) :
      (fill stored found).or stored = stored := by
    rw [fill, some, if_neg Bool.false_ne_true, Option.none_or]
  have colors (some : record.client.brandColors ≠ []) :
      ((fillColors record.client result).map paintedRows).getD record.client.brandColors =
        record.client.brandColors := by
    rw [fillColors, if_neg fun both => some both.1]
    rfl
  have fonts (some : record.client.brandFonts ≠ []) :
      ((fillFonts record.client result).map BrandUpdate.fontRows).getD record.client.brandFonts =
        record.client.brandFonts := by
    rw [fillFonts, if_neg fun both => some both.1]
    rfl
  simp only [onboardingFields, List.forall_mem_cons, filledClient, withBrand, withBasics,
    FieldValue.empty, FieldValue.text.injEq, FieldValue.colors.injEq, FieldValue.fonts.injEq,
    decide_eq_false_iff_not]
  exact ⟨text _ _, text _ _, text _ _, text _ _, text _ _, fun _ => trivial, fun _ => trivial,
    fun _ => trivial, text _ _, text _ _, text _ _, colors, fonts, fun _ => trivial,
    fun _ => trivial, fun _ inside => by cases inside⟩

end Saving

/-! ## The whole run -/

section Run

variable {lib} {env}
variable {data : AutoFillRequest} {sig : Signals} {t : OnboardingTables} {draftTick tick : Tick}

/-- The client the run works on: opened, and in the tables that are committed by then. -/
theorem openClient_spec (lib : Library ν) (draftTick : Tick) (data : AutoFillRequest)
    (sig : Signals) (consistent : t.Consistent) :
    (∀ record, opened lib draftTick data sig t = some record →
      (data.clientId = none → record.Storable ∧ t.get record.id = none) →
      ∃ after, openClient lib draftTick data sig.identity t = (.ok record, after) ∧
        after.Consistent ∧ after.get record.id = some record) ∧
    ((∀ record, opened lib draftTick data sig t = some record →
      ¬(data.clientId = none → record.Storable ∧ t.get record.id = none)) →
      ∃ exc after, openClient lib draftTick data sig.identity t = (.error exc, after)) := by
  unfold opened openClient
  cases data.clientId with
  | some clientId =>
    dsimp only
    cases found : t.get clientId with
    | none =>
      refine ⟨fun record same => ?_, fun _ => ⟨_, t, rfl⟩⟩
      cases same
    | some client =>
      constructor
      · intro record same _
        obtain rfl := Option.some.inj same
        have keyed : client.id = clientId := Table.get_key found
        exact ⟨t, rfl, consistent, keyed ▸ found⟩
      · intro wrong
        refine absurd (fun none => ?_) (wrong client rfl)
        cases none
  | none =>
    dsimp only
    cases draftName lib data sig.identity with
    | none =>
      refine ⟨fun record same => ?_, fun _ => ⟨_, t, rfl⟩⟩
      cases same
    | some name =>
      constructor
      · intro record same good
        obtain rfl := Option.some.inj same
        obtain ⟨storable, free⟩ := good rfl
        exact createDraftMinimal_saved consistent storable free
      · intro bad
        refine ⟨_, t, createDraftMinimal_refused consistent fun good => ?_⟩
        exact bad _ rfl fun _ => good

/-- Found texts suit when they pass the schema and the row and differ from the blank ones. -/
theorem suits_iff {limit : Nat} {stored found : Option String} :
    Suits limit stored found ↔ (∀ value ∈ fill stored found, value.length ≤ limit) ∧
      (∀ value ∈ fill stored found, ClientRecord.holdsText (some value) = true) ∧
      Differs stored found := by
  constructor
  · exact fun suits => ⟨fun value there => (suits value there).1,
      fun value there => (suits value there).2.1, fun value there => (suits value there).2.2⟩
  · exact fun ⟨short, clean, differs⟩ value there =>
      ⟨short value there, clean value there, differs value there⟩

/-- What is found for the blank name of a new draft is that name again. -/
theorem name_of_draft {record : ClientRecord} (created : data.clientId = none)
    (start : opened lib draftTick data sig t = some record) {value : String}
    (there : value ∈ fill record.client.name (foundName data sig.identity)) :
    record.client.name = some value := by
  unfold opened at start
  rw [created] at start
  obtain ⟨name, named, rfl⟩ := Option.map_eq_some_iff.mp start
  unfold fill at there
  split at there
  · rw [draftName, Option.mem_def.mp there] at named
    exact named.symm
  · cases there

/-- What was found suits exactly when it passes and exactly the changed fields are reported. -/
theorem suited_iff {record : ClientRecord} {result : BrandExtraction}
    (start : opened lib draftTick data sig t = some record)
    (storable : record.Storable) :
    Suited record data sig result ↔ Passes record.client data sig result ∧
      (data.clientId.isNone = false →
        Differs record.client.name (foundName data sig.identity)) ∧
      Differs record.client.website (some data.website.val) ∧
      Differs record.client.location (sig.identity.bind Web.IdentitySignals.location) ∧
      Differs record.client.industry result.suggestedIndustry ∧
      Differs record.client.businessType result.suggestedBusinessType ∧
      Differs record.client.aboutBrand (aboutBrand result sig.description) ∧
      Differs record.client.brandVoice result.tone ∧
      Differs record.client.logoUrl (sig.identity.bind Web.IdentitySignals.logoUrl) ∧
      ∀ fonts ∈ fillFonts record.client result, ∃ family ∈ fonts, strip family ≠ "" := by
  have draftShort (created : data.clientId = none) : ∀ value ∈
      fill record.client.name (foundName data sig.identity), value.length ≤ 160 ∧
        ClientRecord.holdsText (some value) = true := by
    intro value there
    have same := name_of_draft created start there
    obtain ⟨⟨-, short, -⟩, -, texts, -⟩ := storable
    rw [same] at short
    refine ⟨of_decide_eq_true short, ?_⟩
    rw [← same]
    exact texts _ (by simp [ClientRecord.texts])
  constructor
  · rintro ⟨name, website, location, industry, businessType, aboutBrand, brandVoice, logoUrl,
      colors, fonts⟩
    rw [suits_iff] at website location industry businessType aboutBrand brandVoice logoUrl
    have nameBoth : ∀ value ∈ fill record.client.name (foundName data sig.identity),
        value.length ≤ 160 ∧ ClientRecord.holdsText (some value) = true := by
      cases created : data.clientId with
      | none => exact draftShort created
      | some clientId =>
        have suits := name (by rw [created]; rfl)
        exact fun value there => ⟨(suits value there).1, (suits value there).2.1⟩
    refine ⟨⟨⟨fun value there => (nameBoth value there).1, website.1, location.1, industry.1,
      businessType.1⟩, ⟨aboutBrand.1, brandVoice.1, logoUrl.1, colors⟩,
      ⟨fun value there => (nameBoth value there).2, website.2.1, location.2.1, industry.2.1,
        businessType.2.1, aboutBrand.2.1, brandVoice.2.1, logoUrl.2.1,
        fun found there => (fonts found there).1⟩⟩, ?_, website.2.2, location.2.2, industry.2.2,
      businessType.2.2, aboutBrand.2.2, brandVoice.2.2, logoUrl.2.2,
      fun found there => (fonts found there).2⟩
    intro given
    exact (suits_iff.mp (name (by simpa using given))).2.2
  · rintro ⟨⟨basics, brand, savable⟩, name, website, location, industry, businessType, aboutBrand,
      brandVoice, logoUrl, fonts⟩
    exact ⟨fun given => suits_iff.mpr ⟨basics.name, savable.name, name (by simpa using given)⟩,
      suits_iff.mpr ⟨basics.website, savable.website, website⟩,
      suits_iff.mpr ⟨basics.location, savable.location, location⟩,
      suits_iff.mpr ⟨basics.industry, savable.industry, industry⟩,
      suits_iff.mpr ⟨basics.businessType, savable.businessType, businessType⟩,
      suits_iff.mpr ⟨brand.aboutBrand, savable.aboutBrand, aboutBrand⟩,
      suits_iff.mpr ⟨brand.brandVoice, savable.brandVoice, brandVoice⟩,
      suits_iff.mpr ⟨brand.logoUrl, savable.logoUrl, logoUrl⟩, brand.colors,
      fun found there => ⟨savable.fonts found there, fonts found there⟩⟩

/-- What was found and saved is returned. -/
theorem fillIn_saved {record filled : ClientRecord} {result : BrandExtraction}
    {after : OnboardingTables}
    (saved : save env tick t record
      (Json.sparse (basicsPatch record.client data result sig.identity))
      (Json.sparse (brandPatch record.client result sig.identity sig.description)) =
      (.ok filled, after)) :
    ∃ returned, fillIn env tick data sig result record t = (.ok returned, after) ∧
      returned.client = filled ∧ returned.created = data.clientId.isNone ∧
      returned.filled = reported data.clientId.isNone
        (paths (Json.sparse (basicsPatch record.client data result sig.identity))
          (Json.sparse (brandPatch record.client result sig.identity sig.description))) := by
  unfold fillIn
  dsimp only
  rw [saved]
  exact ⟨_, rfl, rfl, rfl, rfl⟩

/-- A save that fails is not returned from. -/
theorem fillIn_refused {record : ClientRecord} {result : BrandExtraction} {exc : Exc}
    {after : OnboardingTables}
    (refused : save env tick t record
      (Json.sparse (basicsPatch record.client data result sig.identity))
      (Json.sparse (brandPatch record.client result sig.identity sig.description)) =
      (.error exc, after)) :
    fillIn env tick data sig result record t = (.error exc, after) := by
  unfold fillIn
  dsimp only
  rw [refused]

/-- The record that is filled meets its constraints. -/
theorem storable_of_opened (consistent : t.Consistent) {record : ClientRecord}
    (start : opened lib draftTick data sig t = some record)
    (good : data.clientId = none → record.Storable ∧ t.get record.id = none) :
    record.Storable := by
  cases given : data.clientId with
  | none => exact (good given).1
  | some clientId =>
    rw [opened, given] at start
    exact consistent.1 record (Table.get_mem start)

/-- Opening the client leaves the tables as they were, or with the new draft. -/
theorem openClient_leaves {out : Outcome ClientRecord} {after : OnboardingTables}
    (run : openClient lib draftTick data sig.identity t = (out, after)) :
    after = t ∨ ∃ draft, data.clientId = none ∧ opened lib draftTick data sig t = some draft ∧
      after = { t with clients := t.clients ++ [draft] } := by
  unfold openClient at run
  unfold opened
  cases given : data.clientId with
  | some clientId =>
    rw [given] at run
    dsimp only at run
    cases found : t.get clientId with
    | none =>
      rw [found] at run
      exact .inl (Prod.mk.inj run).2.symm
    | some client =>
      rw [found] at run
      exact .inl (Prod.mk.inj run).2.symm
  | none =>
    rw [given] at run
    dsimp only at run
    cases named : draftName lib data sig.identity with
    | none =>
      rw [named] at run
      exact .inl (Prod.mk.inj run).2.symm
    | some name =>
      rw [named] at run
      dsimp only at run
      obtain ⟨-, rfl⟩ | ⟨-, rfl⟩ := addClient_leaves run
      · exact .inr ⟨_, rfl, rfl, rfl⟩
      · exact .inl rfl

/-- A save that fails leaves the tables as they were. -/
theorem save_error {record : ClientRecord} {basics brand : List (String × Json)} {exc : Exc}
    {after : OnboardingTables}
    (run : save env tick t record basics brand = (.error exc, after)) : after = t := by
  unfold save at run
  split at run
  · cases run
  · cases built : stepUpdate env basics brand with
    | error exc =>
      rw [built] at run
      exact (Prod.mk.inj run).2.symm
    | ok update =>
      rw [built] at run
      dsimp only at run
      obtain ⟨returned, -⟩ | ⟨-, same⟩ := saveClient_leaves run
      · cases returned
      · exact same

/-- A record that keeps its step and takes what was found fills blanks exactly when every found text
differs from the blank one. -/
theorem fillsBlanks_iff {record : ClientRecord} {result : BrandExtraction}
    {returned : AutoFillResult} (there : FilledAt record data sig result returned.client)
    (named : returned.filled = reported returned.created
      (paths (Json.sparse (basicsPatch record.client data result sig.identity))
        (Json.sparse (brandPatch record.client result sig.identity sig.description)))) :
    FillsBlanks record returned ↔
      (returned.created = false → Differs record.client.name (foundName data sig.identity)) ∧
      Differs record.client.website (some data.website.val) ∧
      Differs record.client.location (sig.identity.bind Web.IdentitySignals.location) ∧
      Differs record.client.industry result.suggestedIndustry ∧
      Differs record.client.businessType result.suggestedBusinessType ∧
      Differs record.client.aboutBrand (aboutBrand result sig.description) ∧
      Differs record.client.brandVoice result.tone ∧
      Differs record.client.logoUrl (sig.identity.bind Web.IdentitySignals.logoUrl) ∧
      ∀ fonts ∈ fillFonts record.client result, ∃ family ∈ fonts, strip family ≠ "" := by
  rw [← named_iff there, ← named]
  constructor
  · exact FillsBlanks.named
  · intro exactly
    refine ⟨kept_of_filled there, ?_, exactly⟩
    obtain ⟨moment, same⟩ := there
    rw [same]

/-- The auto-fill returns when the website is named, the answer is read, the client is opened and
the blanks are filled in. -/
theorem autoFill_ok_iff (lib : Library ν) (env : Environment) (configured : Bool)
    (answer : Option (List (String × JsonValue ν))) {returned : AutoFillResult}
    {after : OnboardingTables} :
    autoFill lib env draftTick tick configured sig answer data t = (.ok returned, after) ↔
      strip data.website.val ≠ "" ∧ ∃ result record there,
        finish lib.builtins configured data.website.val sig answer = .ok result ∧
        openClient lib draftTick data sig.identity t = (.ok record, there) ∧
        fillIn env tick data sig result record there = (.ok returned, after) := by
  constructor
  · intro run
    rw [autoFill, extractWithIdentity] at run
    by_cases blank : strip data.website.val = ""
    · rw [if_pos blank] at run
      cases run
    rw [if_neg blank] at run
    cases read : finish lib.builtins configured data.website.val sig answer with
    | error exc =>
      rw [read] at run
      cases run
    | ok result =>
      rw [read] at run
      dsimp only at run
      cases opens : openClient lib draftTick data sig.identity t with
      | mk record there =>
        rw [opens] at run
        cases record with
        | error exc => cases run
        | ok record => exact ⟨blank, result, record, there, rfl, rfl, run⟩
  · rintro ⟨named, result, record, there, read, opens, fills⟩
    rw [autoFill, extractWithIdentity, if_neg named, read]
    dsimp only
    rw [opens]
    exact fills

/-- The auto-fill returns, changes no field that had a value and reports exactly what it changed,
exactly when what the page and the model say suits the columns. -/
theorem fills_blanks_iff (lib : Library ν) (env : Environment) (consistent : t.Consistent)
    (configured : Bool) (answer : Option (List (String × JsonValue ν))) :
    AutoFills lib env draftTick tick configured sig answer data t ↔
      Fillable lib draftTick configured sig answer data t := by
  obtain ⟨opens, refuses⟩ := openClient_spec lib draftTick data sig consistent
  constructor
  · rintro ⟨before, returned, after, start, run, -, -, fills⟩
    obtain ⟨website, result, record, there, read, opened, filledIn⟩ :=
      (autoFill_ok_iff lib env configured answer).mp run
    -- an opened client was accepted
    have good : data.clientId = none → before.Storable ∧ t.get before.id = none := by
      by_contra bad
      obtain ⟨exc, left, refused⟩ := refuses fun other same => by
        rw [start] at same
        rw [← Option.some.inj same]
        exact bad
      rw [refused] at opened
      cases opened
    obtain ⟨there', opened', consistent', stored⟩ := opens before start good
    rw [opened'] at opened
    cases opened
    obtain ⟨passes, fails⟩ := save_spec env tick data sig result consistent' stored
    -- and what was saved passed
    have pass : Passes before.client data sig result := by
      by_contra bad
      obtain ⟨exc, refused⟩ := fails bad
      rw [fillIn_refused refused] at filledIn
      cases filledIn
    obtain ⟨filled, saved, stores, -, filledAt⟩ := passes pass
    obtain ⟨returned', returns, rfl, created, named⟩ := fillIn_saved stores
    rw [returns] at filledIn
    cases filledIn
    rw [← created] at named
    have differs := (fillsBlanks_iff filledAt named).mp fills
    rw [created] at differs
    exact ⟨website, before, result, start, read, good,
      (suited_iff start (storable_of_opened consistent start good)).mpr ⟨pass, differs⟩⟩
  · rintro ⟨website, before, result, start, read, good, suited⟩
    obtain ⟨there, opened, consistent', stored⟩ := opens before start good
    have storable := storable_of_opened consistent start good
    obtain ⟨pass, differs⟩ := (suited_iff start storable).mp suited
    obtain ⟨filled, after, stores, stored', filledAt⟩ :=
      (save_spec env tick data sig result consistent' stored).1 pass
    obtain ⟨returned, returns, rfl, created, named⟩ := fillIn_saved stores
    rw [← created] at named differs
    exact ⟨before, returned, after, start, (autoFill_ok_iff lib env configured answer).mpr
      ⟨website, result, before, there, read, opened, returns⟩, stored', created,
      (fillsBlanks_iff filledAt named).mpr differs⟩

end Run

/-- A website, and the name that was typed with it. -/
def sampleRequest : AutoFillRequest :=
  ⟨⟨"https://acme.com", by decide⟩, some ⟨"Acme", by decide⟩, none⟩

/-- A page that gives a location. -/
def sampleSignals : Signals where
  colors := []
  fonts := []
  themeColor := none
  description := some "Anvils"
  source := .scrape
  identity := some ⟨none, none, none, some "Berlin", [], [], []⟩

/-- A library that is not asked for an address. -/
def sampleLibrary : Library Unit where
  builtins := ⟨lowerAscii, fun _ => ""⟩
  capitalize := id
  url := ⟨fun _ => none, fun _ _ => none, fun _ => none⟩

/-- The draft of the sample request. -/
def sampleDraft : ClientRecord :=
  OnboardingService.newDraft lowerAscii ⟨1, 2, 3, 4⟩ ⟨[], []⟩ "Acme" "https://acme.com"

/-- The theme of the sample page. -/
def sampleTheme : BrandExtraction := fallback "https://acme.com" [] [] (some "Anvils")

set_option maxRecDepth 4000 in
/-- The website of a new client is filled in. -/
theorem sample_fills : AutoFills sampleLibrary ⟨true, []⟩ ⟨1, 2, 3, 4⟩ ⟨5, 6, 7, 8⟩ false
    sampleSignals none sampleRequest ⟨[], []⟩ := by
  have consistent : OnboardingTables.Consistent ⟨[], []⟩ := by decide
  refine (fills_blanks_iff sampleLibrary ⟨true, []⟩ consistent false none).mpr ?_
  have start : opened sampleLibrary ⟨1, 2, 3, 4⟩ sampleRequest sampleSignals ⟨[], []⟩ =
      some sampleDraft := by decide
  have read : finish sampleLibrary.builtins false sampleRequest.website.val sampleSignals none =
      .ok sampleTheme := by rfl
  have nothing {limit : Nat} {stored found : Option String} (blank : fill stored found = none) :
      Suits limit stored found := by
    intro value there
    rw [blank] at there
    cases there
  have location : Suits 160 sampleDraft.client.location (some "Berlin") := by
    intro value there
    have found : fill sampleDraft.client.location (some "Berlin") = some "Berlin" := by decide
    rw [found] at there
    cases there
    exact ⟨by decide, by decide, by decide⟩
  have about : Suits maxText sampleDraft.client.aboutBrand (some "Anvils") := by
    intro value there
    have found : fill sampleDraft.client.aboutBrand (some "Anvils") = some "Anvils" := by decide
    rw [found] at there
    cases there
    exact ⟨by decide, by decide, by decide⟩
  exact ⟨by decide, sampleDraft, sampleTheme, start, read, fun _ => ⟨by decide, rfl⟩, nofun,
    nothing (by decide), location, nothing (by decide), nothing (by decide), about,
    nothing (by decide), nothing (by decide), nofun, nofun⟩

/-- An auto-fill that raises leaves every table as it was, or with the new draft and nothing else:
no stored client is touched, and no build is queued. -/
theorem autoFill_error {lib : Library ν} {env : Environment} {data : AutoFillRequest}
    {sig : Signals} {t : OnboardingTables} {draftTick tick : Tick} {configured : Bool}
    {answer : Option (List (String × JsonValue ν))} {exc : Exc} {after : OnboardingTables}
    (run : autoFill lib env draftTick tick configured sig answer data t = (.error exc, after)) :
    after = t ∨ ∃ draft, data.clientId = none ∧ opened lib draftTick data sig t = some draft ∧
      after = { t with clients := t.clients ++ [draft] } := by
  unfold autoFill at run
  cases extracted : extractWithIdentity lib.builtins configured data.website.val sig answer with
  | error exc =>
    rw [extracted] at run
    exact .inl (Prod.mk.inj run).2.symm
  | ok result =>
    rw [extracted] at run
    dsimp only at run
    cases opens : openClient lib draftTick data sig.identity t with
    | mk client there =>
      rw [opens] at run
      have left := openClient_leaves opens
      cases client with
      | error exc =>
        rw [← (Prod.mk.inj run).2]
        exact left
      | ok client =>
        dsimp only at run
        cases saves : save env tick there client
            (Json.sparse (basicsPatch client.client data result sig.identity))
            (Json.sparse (brandPatch client.client result sig.identity sig.description)) with
        | mk filled stored =>
          cases filled with
          | error exc =>
            rw [fillIn_refused saves] at run
            rw [← (Prod.mk.inj run).2, save_error saves]
            exact left
          | ok filled =>
            obtain ⟨returned, returns, -⟩ := fillIn_saved saves
            rw [returns] at run
            cases run

/-- A page whose location is too long for its field. -/
def sampleOverlong : Signals :=
  { sampleSignals with
    identity := some ⟨none, none, none, some (String.ofList (List.replicate 161 'a')), [], [], []⟩ }

set_option maxRecDepth 8000 in
/-- The location is refused, and the draft stays. -/
theorem sample_leaves_draft : ∃ draft, sampleRequest.clientId = none ∧
    autoFill sampleLibrary ⟨true, []⟩ ⟨1, 2, 3, 4⟩ ⟨5, 6, 7, 8⟩ false sampleOverlong none
      sampleRequest ⟨[], []⟩ = (raised .validationError, ⟨[draft], []⟩) := by
  have run : autoFill sampleLibrary ⟨true, []⟩ ⟨1, 2, 3, 4⟩ ⟨5, 6, 7, 8⟩ false sampleOverlong none
      sampleRequest ⟨[], []⟩ = (raised .validationError, ⟨[sampleDraft], []⟩) := by rfl
  obtain same | ⟨draft, created, -, after⟩ := autoFill_error run
  · cases same
  · refine ⟨draft, created, run.trans ?_⟩
    rw [after]
    rfl

end MarketingOS.ClientDiscoveryService
