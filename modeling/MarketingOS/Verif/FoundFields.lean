import MarketingOS.Services.ClientDiscovery
import MarketingOS.Verif.StagedWrites

/-!
# What an auto-fill saves

The sections of the step an auto-fill saves, as the schemas read them: when they accept what was
found, and which record the step then leaves.
-/
namespace MarketingOS.ClientDiscoveryService

open BrandExtractionService OnboardingService

/-! ## What a section sends -/

/-- A text of a patch, as its field reads it. -/
def sentText (lower upper : Nat) : Option String → Option (Patch (BoundedText lower upper))
  | none => some none
  | some text =>
    if bounds : lower ≤ text.length ∧ text.length ≤ upper then
      some (some (some ⟨text, bounds⟩))
    else none

/-- A field reads the text that was patched. -/
theorem decode_text (lower upper : Nat) (value : Option String) :
    Patch.decode (BoundedText.codec lower upper) (value.map Json.str) =
      sentText lower upper value := by
  cases value with
  | none => rfl
  | some text =>
    by_cases bounds : lower ≤ text.length ∧ text.length ≤ upper <;>
      simp [Patch.decode, JsonCodec.decodeNullable, BoundedText.codec, JsonCodec.refine,
        JsonCodec.string, sentText, bounds]

/-- A field that is not patched is not sent. -/
theorem decode_unsent {α : Type} (codec : JsonCodec α) :
    Patch.decode codec none = some none := rfl

/-- A text is read when it is within its bounds. -/
theorem sentText_isSome_iff {lower upper : Nat} {value : Option String} :
    (sentText lower upper value).isSome ↔
      ∀ text ∈ value, lower ≤ text.length ∧ text.length ≤ upper := by
  cases value with
  | none => simp [sentText]
  | some text => by_cases bounds : lower ≤ text.length ∧ text.length ≤ upper <;>
      simp [sentText, bounds]

/-- A text that is read replaces the column. -/
theorem onto_sentText {lower upper : Nat} {value stored : Option String}
    {patch : Patch (BoundedText lower upper)} (sent : sentText lower upper value = some patch) :
    patch.text.onto stored = value.or stored := by
  cases value with
  | none =>
    obtain rfl := Option.some.inj sent
    rfl
  | some text =>
    simp only [sentText] at sent
    split at sent
    · obtain rfl := Option.some.inj sent
      rfl
    · cases sent

/-- A patched colour is read when it is one. -/
theorem decode_color (color : String) :
    BrandColorIn.codec.decode (colorDocument color) =
      if valid : isHexColor color = true then some ⟨⟨color, valid⟩, none⟩ else none := by
  have known : Json.onlyKeys BrandColorIn.names [("hex", Json.str color)] = true := rfl
  by_cases valid : isHexColor color = true <;>
    simp [BrandColorIn.codec, colorDocument, BrandColorIn.read, known, List.lookup_cons,
      JsonCodec.required, JsonCodec.refine, JsonCodec.string, decode_unsent, valid]

/-- Patched colours are read when each of them is one, and as they are. -/
theorem mapM_colors (colors : List String) :
    (∀ items, (colors.map colorDocument).mapM BrandColorIn.codec.decode = some items →
      items.map (fun item => (item.hex.val, item.label)) = colors.map fun color => (color, none)) ∧
    (((colors.map colorDocument).mapM BrandColorIn.codec.decode).isSome ↔
      ∀ color ∈ colors, isHexColor color = true) := by
  induction colors with
  | nil => simp
  | cons color rest ih =>
    obtain ⟨same, read⟩ := ih
    by_cases valid : isHexColor color = true
    · cases others : (rest.map colorDocument).mapM BrandColorIn.codec.decode with
      | none => simp [decode_color, valid, others, ← read]
      | some items => simp [decode_color, valid, others, ← read, same items others]
    · simp [decode_color, valid]

/-- The rows of patched colours. -/
def paintedRows (colors : List String) : List BrandColor :=
  colors.mapIdx fun position color => ⟨color, none, position⟩

/-- The patched colours, as their field reads them. -/
def sentColors (value : Option (List String)) :
    Option (Patch { items : List BrandColorIn // items.length ≤ 24 }) :=
  Patch.decode (boundedList BrandColorIn.codec 24)
    (value.map fun colors => .arr (colors.map colorDocument))

/-- Colours are read when each of them is one, and there are not too many. -/
theorem sentColors_isSome_iff (value : Option (List String))
    (few : ∀ colors ∈ value, colors.length ≤ 24) :
    (sentColors value).isSome ↔ ∀ colors ∈ value, ∀ color ∈ colors, isHexColor color = true := by
  cases value with
  | none => simp [sentColors, decode_unsent]
  | some colors =>
    obtain ⟨same, read⟩ := mapM_colors colors
    simp only [Option.mem_def, Option.some.injEq, forall_eq']
    rw [← read]
    cases items : (colors.map colorDocument).mapM BrandColorIn.codec.decode with
    | none =>
      simp [sentColors, Patch.decode, JsonCodec.decodeNullable, boundedList, JsonCodec.refine,
        JsonCodec.list, items]
    | some items' =>
      have length := congrArg List.length (same items' items)
      rw [List.length_map, List.length_map] at length
      have short : items'.length ≤ 24 := length ▸ few colors rfl
      simp [sentColors, Patch.decode, JsonCodec.decodeNullable, boundedList, JsonCodec.refine,
        JsonCodec.list, items, short]

/-- Colours that are read replace the rows. -/
theorem onto_sentColors {value : Option (List String)} {stored : List BrandColor}
    {patch : Patch { items : List BrandColorIn // items.length ≤ 24 }}
    (sent : sentColors value = some patch) :
    (patch.read.map fun colors => BrandUpdate.colorRows colors.val).getD stored =
      (value.map paintedRows).getD stored := by
  cases value with
  | none =>
    obtain rfl := Option.some.inj sent
    rfl
  | some colors =>
    obtain ⟨same, -⟩ := mapM_colors colors
    cases items : (colors.map colorDocument).mapM BrandColorIn.codec.decode with
    | none =>
      simp [sentColors, Patch.decode, JsonCodec.decodeNullable, boundedList, JsonCodec.refine,
        JsonCodec.list, items] at sent
    | some items' =>
      by_cases short : items'.length ≤ 24
      · simp only [sentColors, Option.map_some, Patch.decode, JsonCodec.decodeNullable, boundedList,
          JsonCodec.refine, JsonCodec.list, items, Option.bind_some, short, ↓reduceDIte,
          Option.some.injEq] at sent
        subst sent
        show BrandUpdate.colorRows items' = paintedRows colors
        apply List.ext_getElem?
        intro position
        have each := congrArg (·[position]?) (same items' items)
        have rows := congrArg (Option.map fun read : String × Patch (BoundedText 0 60) =>
          (⟨read.1, read.2.text.read, position⟩ : BrandColor)) each
        simp only [List.getElem?_map, Option.map_map] at rows
        simp only [BrandUpdate.colorRows, paintedRows, List.getElem?_mapIdx]
        exact rows
      · simp [sentColors, Patch.decode, JsonCodec.decodeNullable, boundedList, JsonCodec.refine,
          JsonCodec.list, items, short] at sent

/-- The patched fonts, as their field reads them. -/
def sentFonts (value : Option (List String)) :
    Option (Patch { items : List String // items.length ≤ 12 }) :=
  Patch.decode (boundedList JsonCodec.string 12)
    (value.map fun fonts => .arr (fonts.map Json.str))

/-- Fonts are read as they are when there are not too many. -/
theorem sentFonts_eq (value : Option (List String)) (few : ∀ fonts ∈ value, fonts.length ≤ 12) :
    ∃ patch, sentFonts value = some patch ∧ ∀ stored : List BrandFont,
      (patch.read.map fun fonts => BrandUpdate.fontRows fonts.val).getD stored =
        (value.map BrandUpdate.fontRows).getD stored := by
  cases value with
  | none => exact ⟨none, rfl, fun _ => rfl⟩
  | some fonts =>
    have law := (boundedList JsonCodec.string 12).law ⟨fonts, few fonts rfl⟩
    refine ⟨some (some ⟨fonts, few fonts rfl⟩), ?_, fun _ => rfl⟩
    have read : (boundedList JsonCodec.string 12).decode (.arr (fonts.map Json.str)) =
        some ⟨fonts, few fonts rfl⟩ := law
    simp only [sentFonts, Option.map_some, Patch.decode, JsonCodec.decodeNullable, read]

/-- A sparse record whose keys are allowed has no unknown key. -/
theorem forbidExtra_subset {allowed : List String} {entries : List (String × Option Json)}
    (covers : entries.map Prod.fst ⊆ allowed) :
    Schema.forbidExtra allowed (Json.sparse entries) = .ok () := by
  have known : Json.onlyKeys allowed (Json.sparse entries) = true := by
    simp only [Json.onlyKeys, List.all_eq_true, List.contains_iff_mem]
    exact fun entry inside => covers (Json.mem_keys_sparse inside)
  simp only [Schema.forbidExtra, known, ↓reduceIte]

section Patches

variable (env : Environment)
variable (client : Client) (data : AutoFillRequest) (result : BrandExtraction)
  (identity : Option Web.IdentitySignals) (description : Option String)

/-- The basics a patch builds, field by field. -/
theorem decode_basicsPatch :
    BasicsUpdate.decode env (.obj (Json.sparse (basicsPatch client data result identity))) =
      (do
        let name ← Outcome.ofOption .validationError
          (sentText 1 160 (fill client.name (foundName data identity)))
        let businessType ← Outcome.ofOption .validationError
          (sentText 0 120 (fill client.businessType result.suggestedBusinessType))
        let industry ← Outcome.ofOption .validationError
          (sentText 0 120 (fill client.industry result.suggestedIndustry))
        let website ← Outcome.ofOption .validationError
          (sentText 0 255 (fill client.website (some data.website.val)))
        let location ← Outcome.ofOption .validationError
          (sentText 0 160 (fill client.location (identity.bind Web.IdentitySignals.location)))
        pure ⟨name, businessType, industry, website, none, location, none, none⟩) := by
  have distinct : ((basicsPatch client data result identity).map Prod.fst).Nodup := by
    simp only [basicsPatch, List.map_cons, List.map_nil]
    decide
  have covers : (basicsPatch client data result identity).map Prod.fst ⊆ BasicsUpdate.names := by
    simp only [basicsPatch, List.map_cons, List.map_nil]
    decide
  simp only [BasicsUpdate.decode, Schema.arguments, Outcome.ok_bind, forbidExtra_subset covers,
    Schema.field, Json.lookup_sparse _ distinct]
  simp [basicsPatch, List.lookup_cons, decode_text, decode_unsent, Timezone.decode]

/-- The brand section a patch builds, field by field. -/
theorem decode_brandPatch :
    BrandUpdate.decode (.obj (Json.sparse (brandPatch client result identity description))) =
      (do
        let aboutBrand ← Outcome.ofOption .validationError
          (sentText 0 maxText (fill client.aboutBrand (aboutBrand result description)))
        let brandVoice ← Outcome.ofOption .validationError
          (sentText 0 maxLongLine (fill client.brandVoice result.tone))
        let colors ← Outcome.ofOption .validationError (sentColors (fillColors client result))
        let fonts ← Outcome.ofOption .validationError (sentFonts (fillFonts client result))
        let logoUrl ← Outcome.ofOption .validationError
          (sentText 0 1024 (fill client.logoUrl (identity.bind Web.IdentitySignals.logoUrl)))
        pure ⟨aboutBrand, brandVoice, none, colors, fonts, none, logoUrl⟩) := by
  have distinct : ((brandPatch client result identity description).map Prod.fst).Nodup := by
    simp only [brandPatch, List.map_cons, List.map_nil]
    decide
  have covers :
      (brandPatch client result identity description).map Prod.fst ⊆ BrandUpdate.names := by
    simp only [brandPatch, List.map_cons, List.map_nil]
    decide
  simp only [BrandUpdate.decode, Schema.arguments, Outcome.ok_bind, forbidExtra_subset covers,
    Schema.field, Json.lookup_sparse _ distinct]
  simp [brandPatch, List.lookup_cons, decode_text, decode_unsent, sentColors, sentFonts]

/-- Found basics keep to the lengths of their schema. -/
structure BasicsBounded : Prop where
  name : ∀ value ∈ fill client.name (foundName data identity), value.length ≤ 160
  website : ∀ value ∈ fill client.website (some data.website.val), value.length ≤ 255
  location : ∀ value ∈ fill client.location (identity.bind Web.IdentitySignals.location),
    value.length ≤ 160
  industry : ∀ value ∈ fill client.industry result.suggestedIndustry, value.length ≤ 120
  businessType : ∀ value ∈ fill client.businessType result.suggestedBusinessType,
    value.length ≤ 120

/-- Found brand fields keep to the lengths of their schema, and the colours are some. -/
structure BrandBounded : Prop where
  aboutBrand : ∀ value ∈ fill client.aboutBrand (aboutBrand result description),
    value.length ≤ maxText
  brandVoice : ∀ value ∈ fill client.brandVoice result.tone, value.length ≤ maxLongLine
  logoUrl : ∀ value ∈ fill client.logoUrl (identity.bind Web.IdentitySignals.logoUrl),
    value.length ≤ 1024
  colors : ∀ colors ∈ fillColors client result, ∀ color ∈ colors, isHexColor color = true

/-- A client with the found basics. -/
def withBasics : Client :=
  { client with
    name := (fill client.name (foundName data identity)).or client.name
    website := (fill client.website (some data.website.val)).or client.website
    location :=
      (fill client.location (identity.bind Web.IdentitySignals.location)).or client.location
    industry := (fill client.industry result.suggestedIndustry).or client.industry
    businessType :=
      (fill client.businessType result.suggestedBusinessType).or client.businessType }

/-- A client row with the brand fields found for a client. -/
def withBrand (row : Client) : Client :=
  { row with
    aboutBrand := (fill client.aboutBrand (aboutBrand result description)).or row.aboutBrand
    brandVoice := (fill client.brandVoice result.tone).or row.brandVoice
    logoUrl := (fill client.logoUrl (identity.bind Web.IdentitySignals.logoUrl)).or row.logoUrl
    brandColors := ((fillColors client result).map paintedRows).getD row.brandColors
    brandFonts := ((fillFonts client result).map BrandUpdate.fontRows).getD row.brandFonts }

/-- What is found for a column is some text. -/
theorem ne_of_fill {stored found : Option String} {value : String}
    (there : value ∈ fill stored found) : value ≠ "" := by
  unfold fill at there
  split at there
  · have kept := (Option.filter_eq_some_iff.mp there).2
    simpa using kept
  · cases there

/-- What is found for a column is longer than nothing. -/
theorem length_of_fill {stored found : Option String} {value : String}
    (there : value ∈ fill stored found) : 1 ≤ value.length := by
  have some := ne_of_fill there
  by_contra none
  exact some (String.length_eq_zero_iff.mp (by omega))

/-- A returned option. -/
theorem ofOption_ok_iff {α : Type} {missing : PyError} {option : Option α} {value : α} :
    Outcome.ofOption missing option = .ok value ↔ option = some value := by
  cases option with
  | none => constructor <;> nofun
  | some other => simp

/-- What is found for a column is read when it is not too long. -/
theorem sent_iff {lower upper : Nat} {stored found : Option String} (low : lower ≤ 1) :
    (∃ patch, sentText lower upper (fill stored found) = some patch) ↔
      ∀ value ∈ fill stored found, value.length ≤ upper := by
  rw [← Option.isSome_iff_exists, sentText_isSome_iff]
  constructor
  · exact fun both value there => (both value there).2
  · exact fun short value there => ⟨low.trans (length_of_fill there), short value there⟩

/-- The basics a patch builds are the found ones. -/
theorem apply_of_decode_basics {sent : BasicsUpdate env}
    (read : BasicsUpdate.decode env (.obj (Json.sparse (basicsPatch client data result identity))) =
      .ok sent) : sent.apply client = withBasics client data result identity := by
  rw [decode_basicsPatch] at read
  simp only [Outcome.bind_ok, ofOption_ok_iff, Outcome.pure_eq, Except.ok.injEq] at read
  obtain ⟨name, nameSent, businessType, businessSent, industry, industrySent, website, websiteSent,
    location, locationSent, rfl⟩ := read
  simp only [BasicsUpdate.apply, withBasics, onto_sentText nameSent, onto_sentText businessSent,
    onto_sentText industrySent, onto_sentText websiteSent, onto_sentText locationSent]
  rfl

/-- The basics are built when they keep to their lengths. -/
theorem decode_basics_iff :
    (∃ sent, BasicsUpdate.decode env
      (.obj (Json.sparse (basicsPatch client data result identity))) = .ok sent) ↔
      BasicsBounded client data result identity := by
  rw [decode_basicsPatch]
  simp only [Outcome.bind_ok, ofOption_ok_iff, Outcome.pure_eq, Except.ok.injEq]
  constructor
  · rintro ⟨-, name, nameSent, businessType, businessSent, industry, industrySent, website,
      websiteSent, location, locationSent, -⟩
    exact ⟨(sent_iff (by decide)).mp ⟨_, nameSent⟩, (sent_iff (by decide)).mp ⟨_, websiteSent⟩,
      (sent_iff (by decide)).mp ⟨_, locationSent⟩, (sent_iff (by decide)).mp ⟨_, industrySent⟩,
      (sent_iff (by decide)).mp ⟨_, businessSent⟩⟩
  · rintro ⟨name, website, location, industry, businessType⟩
    obtain ⟨name, nameSent⟩ := (sent_iff (by decide : 1 ≤ 1)).mpr name
    obtain ⟨website, websiteSent⟩ := (sent_iff (by decide : 0 ≤ 1)).mpr website
    obtain ⟨location, locationSent⟩ := (sent_iff (by decide : 0 ≤ 1)).mpr location
    obtain ⟨industry, industrySent⟩ := (sent_iff (by decide : 0 ≤ 1)).mpr industry
    obtain ⟨businessType, businessSent⟩ := (sent_iff (by decide : 0 ≤ 1)).mpr businessType
    exact ⟨_, name, nameSent, businessType, businessSent, industry, industrySent, website,
      websiteSent, location, locationSent, rfl⟩

/-- No more colours are found than a client may have. -/
theorem length_fillColors {colors : List String} (there : colors ∈ fillColors client result) :
    colors.length ≤ 4 := by
  unfold fillColors at there
  split at there
  · rw [← Option.some.inj there, List.length_take]
    exact Nat.min_le_left _ _
  · cases there

/-- No more fonts are found than a client may have. -/
theorem length_fillFonts {fonts : List String} (there : fonts ∈ fillFonts client result) :
    fonts.length ≤ 6 := by
  unfold fillFonts at there
  split at there
  · rw [← Option.some.inj there, List.length_take]
    exact Nat.min_le_left _ _
  · cases there

/-- The brand rows after a brand update. -/
theorem brandRows_apply (sent : BrandUpdate) (row : Client) :
    (sent.apply row).brandColors = (sent.colors.read.map fun colors =>
      BrandUpdate.colorRows colors.val).getD row.brandColors ∧
    (sent.apply row).brandFonts = (sent.fonts.read.map fun fonts =>
      BrandUpdate.fontRows fonts.val).getD row.brandFonts := by
  simp only [BrandUpdate.apply]
  constructor
  · cases sent.colors.read <;> rfl
  · cases sent.fonts.read <;> rfl

/-- The brand section a patch builds is the found one. -/
theorem apply_of_decode_brand {sent : BrandUpdate} (row : Client)
    (read : BrandUpdate.decode
      (.obj (Json.sparse (brandPatch client result identity description))) = .ok sent) :
    sent.apply row = withBrand client result identity description row := by
  rw [decode_brandPatch] at read
  simp only [Outcome.bind_ok, ofOption_ok_iff, Outcome.pure_eq, Except.ok.injEq] at read
  obtain ⟨aboutBrand, aboutSent, brandVoice, voiceSent, colors, colorsSent, fonts, fontsSent,
    logoUrl, logoSent, rfl⟩ := read
  have few : ∀ fonts ∈ fillFonts client result, fonts.length ≤ 12 :=
    fun fonts there => (length_fillFonts client result there).trans (by decide)
  obtain ⟨patch, same, rows⟩ := sentFonts_eq _ few
  obtain rfl := Option.some.inj (same.symm.trans fontsSent)
  have painted := brandRows_apply ⟨aboutBrand, brandVoice, none, colors, patch, none, logoUrl⟩ row
  rw [onto_sentColors colorsSent, rows] at painted
  obtain ⟨paintedColors, letteredFonts⟩ := painted
  unfold withBrand
  rw [← paintedColors, ← letteredFonts, ← onto_sentText aboutSent, ← onto_sentText voiceSent,
    ← onto_sentText logoSent]
  rfl

/-- The brand section is built when it keeps to its lengths and the colours are some. -/
theorem decode_brand_iff :
    (∃ sent, BrandUpdate.decode
      (.obj (Json.sparse (brandPatch client result identity description))) = .ok sent) ↔
      BrandBounded client result identity description := by
  rw [decode_brandPatch]
  simp only [Outcome.bind_ok, ofOption_ok_iff, Outcome.pure_eq, Except.ok.injEq]
  have painted := sentColors_isSome_iff (fillColors client result)
    fun colors there => (length_fillColors client result there).trans (by decide)
  have lettered := sentFonts_eq (fillFonts client result)
    fun fonts there => (length_fillFonts client result there).trans (by decide)
  rw [Option.isSome_iff_exists] at painted
  constructor
  · rintro ⟨-, aboutBrand, aboutSent, brandVoice, voiceSent, colors, colorsSent, fonts, fontsSent,
      logoUrl, logoSent, -⟩
    exact ⟨(sent_iff (by decide)).mp ⟨_, aboutSent⟩, (sent_iff (by decide)).mp ⟨_, voiceSent⟩,
      (sent_iff (by decide)).mp ⟨_, logoSent⟩, painted.mp ⟨_, colorsSent⟩⟩
  · rintro ⟨aboutBrand, brandVoice, logoUrl, colors⟩
    obtain ⟨aboutBrand, aboutSent⟩ := (sent_iff (by decide : 0 ≤ 1)).mpr aboutBrand
    obtain ⟨brandVoice, voiceSent⟩ := (sent_iff (by decide : 0 ≤ 1)).mpr brandVoice
    obtain ⟨logoUrl, logoSent⟩ := (sent_iff (by decide : 0 ≤ 1)).mpr logoUrl
    obtain ⟨colors, colorsSent⟩ := painted.mpr colors
    obtain ⟨fonts, fontsSent, -⟩ := lettered
    exact ⟨_, aboutBrand, aboutSent, brandVoice, voiceSent, colors, colorsSent, fonts, fontsSent,
      logoUrl, logoSent, rfl⟩

/-- A sparse record is empty when no entry has a document. -/
theorem sparse_isEmpty_iff {entries : List (String × Option Json)} :
    (Json.sparse entries).isEmpty = true ↔ ∀ entry ∈ entries, entry.2 = none := by
  simp [Json.sparse, List.filterMap_eq_nil_iff]

/-- A section of the update: nothing for an empty patch, else what the schema reads. -/
theorem sectionOf_ok_iff {α : Type} {schema : Json → Outcome α} {fields : List (String × Json)}
    {sent : Patch α} :
    sectionOf schema fields = .ok sent ↔
      (fields.isEmpty = true ∧ sent = none) ∨ (fields.isEmpty = false ∧
        ∃ value, schema (.obj fields) = .ok value ∧ sent = some (some value)) := by
  unfold sectionOf
  cases blank : fields.isEmpty with
  | true => simp [eq_comm]
  | false =>
    cases schema (.obj fields) with
    | error exc => simp [Except.map]
    | ok value => simp [eq_comm]

/-- The basics section of the update is the found basics. -/
theorem basicsSection {sent : Patch (BasicsUpdate env)}
    (built : sectionOf (BasicsUpdate.decode env)
      (Json.sparse (basicsPatch client data result identity)) = .ok sent) :
    whenSent sent client (fun basics => basics.apply client) =
      withBasics client data result identity := by
  obtain ⟨blank, rfl⟩ | ⟨-, value, read, rfl⟩ := sectionOf_ok_iff.mp built
  · have none := sparse_isEmpty_iff.mp blank
    simp only [basicsPatch, List.forall_mem_cons, Option.map_eq_none_iff] at none
    obtain ⟨name, website, location, industry, businessType, -⟩ := none
    simp only [withBasics, name, website, location, industry, businessType, Option.none_or]
    rfl
  · exact apply_of_decode_basics env client data result identity read

/-- The basics section is built when the basics keep to their lengths. -/
theorem basicsSection_iff :
    (∃ sent, sectionOf (BasicsUpdate.decode env)
      (Json.sparse (basicsPatch client data result identity)) = .ok sent) ↔
      BasicsBounded client data result identity := by
  cases blank : (Json.sparse (basicsPatch client data result identity)).isEmpty with
  | true =>
    have none := sparse_isEmpty_iff.mp blank
    simp only [basicsPatch, List.forall_mem_cons, Option.map_eq_none_iff] at none
    obtain ⟨name, website, location, industry, businessType, -⟩ := none
    have bounded : BasicsBounded client data result identity := by
      constructor <;> simp [*]
    exact iff_of_true ⟨_, sectionOf_ok_iff.mpr (.inl ⟨blank, rfl⟩)⟩ bounded
  | false =>
    rw [← decode_basics_iff env]
    simp [sectionOf_ok_iff, blank]

/-- The brand section of the update is the found brand. -/
theorem brandSection {sent : Patch BrandUpdate} (row : Client)
    (built : sectionOf BrandUpdate.decode
      (Json.sparse (brandPatch client result identity description)) = .ok sent) :
    whenSent sent row (fun brand => brand.apply row) =
      withBrand client result identity description row := by
  obtain ⟨blank, rfl⟩ | ⟨-, value, read, rfl⟩ := sectionOf_ok_iff.mp built
  · have none := sparse_isEmpty_iff.mp blank
    simp only [brandPatch, List.forall_mem_cons, Option.map_eq_none_iff] at none
    obtain ⟨aboutBrand, brandVoice, logoUrl, colors, fonts, -⟩ := none
    simp only [withBrand, aboutBrand, brandVoice, logoUrl, colors, fonts, Option.none_or,
      Option.map_none, Option.getD_none]
    rfl
  · exact apply_of_decode_brand client result identity description row read

/-- The brand section is built when it keeps to its lengths and the colours are some. -/
theorem brandSection_iff :
    (∃ sent, sectionOf BrandUpdate.decode
      (Json.sparse (brandPatch client result identity description)) = .ok sent) ↔
      BrandBounded client result identity description := by
  cases blank : (Json.sparse (brandPatch client result identity description)).isEmpty with
  | true =>
    have none := sparse_isEmpty_iff.mp blank
    simp only [brandPatch, List.forall_mem_cons, Option.map_eq_none_iff] at none
    obtain ⟨aboutBrand, brandVoice, logoUrl, colors, fonts, -⟩ := none
    have bounded : BrandBounded client result identity description := by
      constructor <;> simp [*]
    exact iff_of_true ⟨_, sectionOf_ok_iff.mpr (.inl ⟨blank, rfl⟩)⟩ bounded
  | false =>
    rw [← decode_brand_iff]
    simp [sectionOf_ok_iff, blank]

/-- The step is built when what was found keeps to the schemas. -/
theorem stepUpdate_ok_iff :
    (∃ update, stepUpdate env (Json.sparse (basicsPatch client data result identity))
      (Json.sparse (brandPatch client result identity description)) = .ok update) ↔
      BasicsBounded client data result identity ∧
        BrandBounded client result identity description := by
  rw [← basicsSection_iff env, ← brandSection_iff]
  simp only [stepUpdate, Outcome.bind_ok, Outcome.pure_eq, Except.ok.injEq]
  constructor
  · rintro ⟨-, basics, basicsBuilt, brand, brandBuilt, -⟩
    exact ⟨⟨basics, basicsBuilt⟩, brand, brandBuilt⟩
  · rintro ⟨⟨basics, basicsBuilt⟩, brand, brandBuilt⟩
    exact ⟨_, basics, basicsBuilt, brand, brandBuilt, rfl⟩

/-- A client with everything that was found. -/
def filledClient : Client :=
  withBrand client result identity description (withBasics client data result identity)

/-- The step that is built applies what was found, and nothing else. -/
theorem applyStep_of_stepUpdate {update : OnboardingStepUpdate env} (noteId : Uuid)
    (record : ClientRecord)
    (built : stepUpdate env (Json.sparse (basicsPatch record.client data result identity))
      (Json.sparse (brandPatch record.client result identity description)) = .ok update) :
    applyStep noteId update record =
      { record with client := filledClient record.client data result identity description } := by
  simp only [stepUpdate, Outcome.bind_ok, Outcome.pure_eq, Except.ok.injEq] at built
  obtain ⟨basics, basicsBuilt, brand, brandBuilt, rfl⟩ := built
  have found := basicsSection env record.client data result identity basicsBuilt
  have brandFound := brandSection record.client result identity description
    (withBasics record.client data result identity) brandBuilt
  simp only [applyStep, found, brandFound, filledClient]
  rfl

/-- What is found holds no NUL, and the font names fit their column. -/
structure Savable : Prop where
  name : ∀ value ∈ fill client.name (foundName data identity), ClientRecord.holdsText (some value)
  website : ∀ value ∈ fill client.website (some data.website.val),
    ClientRecord.holdsText (some value)
  location : ∀ value ∈ fill client.location (identity.bind Web.IdentitySignals.location),
    ClientRecord.holdsText (some value)
  industry : ∀ value ∈ fill client.industry result.suggestedIndustry,
    ClientRecord.holdsText (some value)
  businessType : ∀ value ∈ fill client.businessType result.suggestedBusinessType,
    ClientRecord.holdsText (some value)
  aboutBrand : ∀ value ∈ fill client.aboutBrand (aboutBrand result description),
    ClientRecord.holdsText (some value)
  brandVoice : ∀ value ∈ fill client.brandVoice result.tone, ClientRecord.holdsText (some value)
  logoUrl : ∀ value ∈ fill client.logoUrl (identity.bind Web.IdentitySignals.logoUrl),
    ClientRecord.holdsText (some value)
  fonts : ∀ fonts ∈ fillFonts client result, ∀ family ∈ fonts, strip family ≠ "" →
    family.length ≤ 120 ∧ ClientRecord.holdsText (some family)

/-- A column that is filled holds no NUL when what fills it holds none. -/
theorem holdsText_or {value stored : Option String} (clean : ClientRecord.holdsText stored = true) :
    ClientRecord.holdsText (value.or stored) = true ↔
      ∀ text ∈ value, ClientRecord.holdsText (some text) = true := by
  cases value with
  | none => simpa using clean
  | some text => simp

/-- A column that is filled fits when what fills it does. -/
theorem fits_filled {limit : Nat} {value stored : Option String} (short : fits limit stored = true)
    (bounded : ∀ text ∈ value, text.length ≤ limit) : fits limit (value.or stored) = true := by
  cases value with
  | none => simpa using short
  | some text => simpa [fits] using bounded text rfl

/-- A colour holds no NUL. -/
theorem holdsText_of_isHexColor {color : String} (valid : isHexColor color = true) :
    ClientRecord.holdsText (some color) = true := by
  unfold isHexColor at valid
  split at valid
  · next digits shape =>
    simp only [Bool.and_eq_true, List.all_eq_true] at valid
    have apart : '\x00' ∉ color.toList := by
      rw [shape]
      intro inside
      obtain wrong | inside := List.mem_cons.mp inside
      · exact absurd wrong (by decide)
      · exact absurd (valid.1 _ inside) (by decide)
    simpa [ClientRecord.holdsText] using apart
  · cases valid

/-- The colours of a filled client meet the constraints of their rows. -/
theorem storable_painted {colors : List String}
    (valid : ∀ color ∈ colors, isHexColor color = true) :
    ∀ row ∈ paintedRows colors, (row.hex.length ≤ 9 ∧ fits 60 row.label = true) ∧
      ClientRecord.holdsText (some row.hex) = true := by
  intro row inside
  obtain ⟨position, bound, rfl⟩ := List.mem_mapIdx.mp inside
  have one := valid _ (List.getElem_mem bound)
  exact ⟨⟨length_of_isHexColor one, rfl⟩, holdsText_of_isHexColor one⟩

/-- The colours of a filled client have no names. -/
theorem unlabelled_painted {colors : List String} {row : BrandColor}
    (inside : row ∈ paintedRows colors) : row.label = none := by
  obtain ⟨position, bound, rfl⟩ := List.mem_mapIdx.mp inside
  rfl

/-- The fonts of a filled client meet the constraints of their rows when their names do. -/
theorem storable_lettered (fonts : List String) :
    (∀ row ∈ BrandUpdate.fontRows fonts, (row.family.length ≤ 120 ∧ fits 60 row.usage = true) ∧
      ClientRecord.holdsText (some row.family) = true) ↔
      ∀ family ∈ fonts, strip family ≠ "" →
        family.length ≤ 120 ∧ ClientRecord.holdsText (some family) = true := by
  unfold BrandUpdate.fontRows
  constructor
  · intro rows family inside some
    have row := rows ⟨family, none⟩ (List.mem_map_of_mem
      (List.mem_filter.mpr ⟨inside, decide_eq_true some⟩))
    exact ⟨row.1.1, row.2⟩
  · intro names row inside
    obtain ⟨family, kept, rfl⟩ := List.mem_map.mp inside
    obtain ⟨inside, some⟩ := List.mem_filter.mp kept
    obtain ⟨short, clean⟩ := names family inside (of_decide_eq_true some)
    exact ⟨⟨short, rfl⟩, clean⟩

/-- A filled record meets its constraints when what was found can be saved. -/
theorem storable_filled_iff {record : ClientRecord} (before : record.Storable)
    (basics : BasicsBounded record.client data result identity)
    (brand : BrandBounded record.client result identity description) :
    ClientRecord.Storable { record with
      client := filledClient record.client data result identity description } ↔
      Savable record.client data result identity description := by
  obtain ⟨⟨named, name, status, business, industry, website, location, timezone, language, colors,
    fonts⟩, slug, texts, sections⟩ := before
  simp only [ClientRecord.texts, List.forall_mem_append, List.forall_mem_cons,
    List.forall_mem_map] at texts
  obtain ⟨⟨⟨cleanSlug, cleanName, cleanBusiness, cleanIndustry, cleanWebsite, cleanLocation,
    cleanTimezone, cleanLanguage, cleanMarkets, cleanAbout, cleanVoice, cleanExtracted,
    cleanGuidelines, cleanLogo, -⟩, cleanColors⟩, cleanFonts⟩ := texts
  have labelled : ∀ text ∈ ClientRecord.sectionTexts { record with
      client := filledClient record.client data result identity description },
      ClientRecord.holdsText text = true := by
    simp only [ClientRecord.sectionTexts, List.forall_mem_append, List.forall_mem_cons,
      List.forall_mem_map] at sections ⊢
    obtain ⟨⟨⟨⟨goals, labels⟩, register⟩, contacts⟩, documents⟩ := sections
    refine ⟨⟨⟨⟨goals, ?_⟩, register⟩, contacts⟩, documents⟩
    simp only [filledClient, withBrand, withBasics]
    cases fillColors record.client result with
    | none => exact labels
    | some colors =>
      intro row inside
      rw [unlabelled_painted inside]
      rfl
  have painted : ∀ row ∈ (filledClient record.client data result identity description).brandColors,
      (row.hex.length ≤ 9 ∧ fits 60 row.label = true) ∧
        ClientRecord.holdsText (some row.hex) = true := by
    simp only [filledClient, withBrand, withBasics]
    cases found : fillColors record.client result with
    | none => exact fun row inside => ⟨colors row inside, cleanColors row inside⟩
    | some found' => exact storable_painted (brand.colors found' found)
  have lettered : (∀ row ∈ (filledClient record.client data result identity description).brandFonts,
      (row.family.length ≤ 120 ∧ fits 60 row.usage = true) ∧
        ClientRecord.holdsText (some row.family) = true) ↔
      ∀ fonts ∈ fillFonts record.client result, ∀ family ∈ fonts, strip family ≠ "" →
        family.length ≤ 120 ∧ ClientRecord.holdsText (some family) := by
    simp only [filledClient, withBrand, withBasics]
    cases found : fillFonts record.client result with
    | none =>
      exact iff_of_true (fun row inside => ⟨fonts row inside, cleanFonts row inside⟩)
        (fun _ absent => by cases absent)
    | some found' => simpa using storable_lettered found'
  simp only [filledClient, withBrand, withBasics, ClientRecord.Storable, Client.Storable,
    ClientRecord.texts, List.forall_mem_append, List.forall_mem_cons, List.forall_mem_map]
    at painted lettered labelled ⊢
  constructor
  · rintro ⟨⟨-, -, -, -, -, -, -, -, -, -, newFonts⟩, -, texts, -⟩
    obtain ⟨⟨⟨-, newName, newBusiness, newIndustry, newWebsite, newLocation, -, -, -, newAbout,
      newVoice, -, -, newLogo, -⟩, -⟩, newFamilies⟩ := texts
    exact {
      name := (holdsText_or cleanName).mp newName
      website := (holdsText_or cleanWebsite).mp newWebsite
      location := (holdsText_or cleanLocation).mp newLocation
      industry := (holdsText_or cleanIndustry).mp newIndustry
      businessType := (holdsText_or cleanBusiness).mp newBusiness
      aboutBrand := (holdsText_or cleanAbout).mp newAbout
      brandVoice := (holdsText_or cleanVoice).mp newVoice
      logoUrl := (holdsText_or cleanLogo).mp newLogo
      fonts := lettered.mp fun row inside => ⟨newFonts row inside, newFamilies row inside⟩ }
  · intro savable
    have rows := lettered.mpr savable.fonts
    have stillNamed : ((fill record.client.name (foundName data identity)).or
        record.client.name).isSome = true := by
      rw [Option.isSome_or, named, Bool.or_true]
    refine ⟨⟨stillNamed, fits_filled name basics.name, status,
      fits_filled business basics.businessType, fits_filled industry basics.industry,
      fits_filled website basics.website, fits_filled location basics.location, timezone, language,
      fun row inside => (painted row inside).1, fun row inside => (rows row inside).1⟩, slug, ?_,
      labelled⟩
    exact ⟨⟨⟨cleanSlug, (holdsText_or cleanName).mpr savable.name,
      (holdsText_or cleanBusiness).mpr savable.businessType,
      (holdsText_or cleanIndustry).mpr savable.industry,
      (holdsText_or cleanWebsite).mpr savable.website,
      (holdsText_or cleanLocation).mpr savable.location, cleanTimezone, cleanLanguage, cleanMarkets,
      (holdsText_or cleanAbout).mpr savable.aboutBrand,
      (holdsText_or cleanVoice).mpr savable.brandVoice, cleanExtracted, cleanGuidelines,
      (holdsText_or cleanLogo).mpr savable.logoUrl, fun _ absent => by cases absent⟩,
      fun row inside => (painted row inside).2⟩, fun row inside => (rows row inside).2⟩

end Patches

end MarketingOS.ClientDiscoveryService
