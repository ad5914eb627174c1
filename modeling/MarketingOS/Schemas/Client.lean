import MarketingOS.Models.Enums
import MarketingOS.Schemas.Common

/-!
# Client, brand and user schemas

The bodies of the admin edits that the change proposals can stage. Every field of them is
partial: what was not sent is not applied, and is not dumped.
-/
namespace MarketingOS

open JsonCodec

/-- `ClientUpdate`. -/
structure ClientUpdate (env : Environment) where
  name : Patch (BoundedText 1 200)
  businessType : Patch (BoundedText 0 120)
  industry : Patch (BoundedText 0 120)
  website : Patch (BoundedText 0 255)
  location : Patch (BoundedText 0 160)
  language : Patch (BoundedText 0 60)
  timezone : Patch (Timezone env)
  markets : Patch (BoundedText 0 maxLongLine)
  status : Patch ClientStatus
deriving DecidableEq

namespace ClientUpdate

variable {env : Environment}

/-- The fields the schema knows. -/
def names : List String :=
  ["name", "business_type", "industry", "website", "location", "language", "timezone", "markets",
    "status"]

/-- `ClientUpdate(**document)`. -/
def decode (env : Environment) (document : Json) : Outcome (ClientUpdate env) := do
  let fields ← Schema.arguments document
  Schema.forbidExtra names fields
  let name ← Schema.field (Patch.decode (BoundedText.codec 1 200)) fields "name"
  let businessType ← Schema.field (Patch.decode (BoundedText.codec 0 120)) fields "business_type"
  let industry ← Schema.field (Patch.decode (BoundedText.codec 0 120)) fields "industry"
  let website ← Schema.field (Patch.decode (BoundedText.codec 0 255)) fields "website"
  let location ← Schema.field (Patch.decode (BoundedText.codec 0 160)) fields "location"
  let language ← Schema.field (Patch.decode (BoundedText.codec 0 60)) fields "language"
  let timezone ← Schema.field (Timezone.decode env) fields "timezone"
  let markets ← Schema.field (Patch.decode (BoundedText.codec 0 maxLongLine)) fields "markets"
  let status ← Schema.field (Patch.decode (enumeration ClientStatus)) fields "status"
  pure ⟨name, businessType, industry, website, location, language, timezone, markets, status⟩

/-- The entries of `model_dump(mode="json", exclude_unset=True)`; a field not sent has none. -/
def entries (data : ClientUpdate env) : List (String × Option Json) :=
  [("name", data.name.encode (BoundedText.codec 1 200)),
    ("business_type", data.businessType.encode (BoundedText.codec 0 120)),
    ("industry", data.industry.encode (BoundedText.codec 0 120)),
    ("website", data.website.encode (BoundedText.codec 0 255)),
    ("location", data.location.encode (BoundedText.codec 0 160)),
    ("language", data.language.encode (BoundedText.codec 0 60)),
    ("timezone", Timezone.encode data.timezone),
    ("markets", data.markets.encode (BoundedText.codec 0 maxLongLine)),
    ("status", data.status.encode (enumeration ClientStatus))]

/-- `data.model_dump(mode="json", exclude_unset=True)`. -/
def encode (data : ClientUpdate env) : Json := .obj (Json.sparse data.entries)

/-- A dumped value is accepted again, with the same fields sent. -/
theorem decode_encode (data : ClientUpdate env) : decode env data.encode = .ok data := by
  have covers : data.entries.map Prod.fst = names := rfl
  have distinct : (data.entries.map Prod.fst).Nodup := by rw [covers]; decide
  simp only [decode, encode, Schema.arguments, Schema.forbidExtra_sparse covers, Schema.field,
    Json.lookup_sparse _ distinct, bind, Except.bind]
  simp [entries, List.lookup_cons, Outcome.ofOption, pure, Except.pure]

end ClientUpdate

/-- Whether a character is a hexadecimal digit. -/
def isHexDigit (c : Char) : Bool := (Digits.digitValue c).isSome

/-- `HEX_PATTERN` — a number sign and three, four, six or eight hexadecimal digits. -/
def isHexColor (text : String) : Bool :=
  match text.toList with
  | '#' :: digits => digits.all isHexDigit && [3, 4, 6, 8].contains digits.length
  | _ => false

/-- `BrandColorIn`. -/
structure BrandColorIn where
  hex : { text : String // isHexColor text = true }
  label : Patch (BoundedText 0 60)
deriving DecidableEq

namespace BrandColorIn

/-- The fields the schema knows. -/
def names : List String := ["hex", "label"]

/-- The entries of `model_dump(mode="json", exclude_unset=True)`. -/
def entries (color : BrandColorIn) : List (String × Option Json) :=
  [("hex", some ((JsonCodec.string.refine fun text => isHexColor text = true).encode color.hex)),
    ("label", color.label.encode (BoundedText.codec 0 60))]

/-- The colour two fields make, when the schema accepts both. -/
def read (fields : List (String × Json)) : Option BrandColorIn :=
  if Json.onlyKeys names fields then do
    let hex ← required (JsonCodec.string.refine fun text => isHexColor text = true)
      (fields.lookup "hex")
    let label ← Patch.decode (BoundedText.codec 0 60) (fields.lookup "label")
    some ⟨hex, label⟩
  else none

/-- A dumped colour is accepted again, with the same fields sent. -/
theorem read_entries (color : BrandColorIn) : read (Json.sparse color.entries) = some color := by
  have covers : color.entries.map Prod.fst = names := rfl
  have distinct : (color.entries.map Prod.fst).Nodup := by rw [covers]; decide
  simp only [read, Json.onlyKeys_sparse covers, ↓reduceIte, Json.lookup_sparse _ distinct]
  simp [entries, List.lookup_cons]

/-- A colour inside a body. -/
def codec : JsonCodec BrandColorIn where
  encode color := .obj (Json.sparse color.entries)
  decode
    | .obj fields => read fields
    | _ => none
  law := read_entries
  notNull _ := by simp

end BrandColorIn

/-- `Field(max_length=limit)` on a list. -/
def boundedList {α : Type} (codec : JsonCodec α) (limit : Nat) :
    JsonCodec { items : List α // items.length ≤ limit } :=
  (list codec).refine fun items => items.length ≤ limit

/-- `BrandUpdate`. -/
structure BrandUpdate where
  aboutBrand : Patch (BoundedText 0 maxText)
  brandVoice : Patch (BoundedText 0 maxLongLine)
  brandExtracted : Patch (BoundedText 0 maxText)
  colors : Patch { items : List BrandColorIn // items.length ≤ 24 }
  fonts : Patch { items : List String // items.length ≤ 12 }
  colorGuidelines : Patch (BoundedText 0 maxText)
  logoUrl : Patch (BoundedText 0 1024)
deriving DecidableEq

namespace BrandUpdate

/-- The fields the schema knows. -/
def names : List String :=
  ["about_brand", "brand_voice", "brand_extracted", "colors", "fonts", "color_guidelines",
    "logo_url"]

/-- `BrandUpdate(**document)`. -/
def decode (document : Json) : Outcome BrandUpdate := do
  let fields ← Schema.arguments document
  Schema.forbidExtra names fields
  let aboutBrand ← Schema.field (Patch.decode (BoundedText.codec 0 maxText)) fields "about_brand"
  let brandVoice ←
    Schema.field (Patch.decode (BoundedText.codec 0 maxLongLine)) fields "brand_voice"
  let brandExtracted ←
    Schema.field (Patch.decode (BoundedText.codec 0 maxText)) fields "brand_extracted"
  let colors ← Schema.field (Patch.decode (boundedList BrandColorIn.codec 24)) fields "colors"
  let fonts ← Schema.field (Patch.decode (boundedList JsonCodec.string 12)) fields "fonts"
  let colorGuidelines ←
    Schema.field (Patch.decode (BoundedText.codec 0 maxText)) fields "color_guidelines"
  let logoUrl ← Schema.field (Patch.decode (BoundedText.codec 0 1024)) fields "logo_url"
  pure ⟨aboutBrand, brandVoice, brandExtracted, colors, fonts, colorGuidelines, logoUrl⟩

/-- The entries of `model_dump(mode="json", exclude_unset=True)`; a field not sent has none. -/
def entries (data : BrandUpdate) : List (String × Option Json) :=
  [("about_brand", data.aboutBrand.encode (BoundedText.codec 0 maxText)),
    ("brand_voice", data.brandVoice.encode (BoundedText.codec 0 maxLongLine)),
    ("brand_extracted", data.brandExtracted.encode (BoundedText.codec 0 maxText)),
    ("colors", data.colors.encode (boundedList BrandColorIn.codec 24)),
    ("fonts", data.fonts.encode (boundedList JsonCodec.string 12)),
    ("color_guidelines", data.colorGuidelines.encode (BoundedText.codec 0 maxText)),
    ("logo_url", data.logoUrl.encode (BoundedText.codec 0 1024))]

/-- `data.model_dump(mode="json", exclude_unset=True)`. -/
def encode (data : BrandUpdate) : Json := .obj (Json.sparse data.entries)

/-- A dumped value is accepted again, with the same fields sent. -/
theorem decode_encode (data : BrandUpdate) : decode data.encode = .ok data := by
  have covers : data.entries.map Prod.fst = names := rfl
  have distinct : (data.entries.map Prod.fst).Nodup := by rw [covers]; decide
  simp only [decode, encode, Schema.arguments, Schema.forbidExtra_sparse covers, Schema.field,
    Json.lookup_sparse _ distinct, bind, Except.bind]
  simp [entries, List.lookup_cons, Outcome.ofOption, pure, Except.pure]

end BrandUpdate

/-- `UserUpdate`. -/
structure UserUpdate where
  name : Patch (BoundedText 1 120)
  role : Patch UserRole
  isActive : Patch Bool
deriving DecidableEq

namespace UserUpdate

/-- The fields the schema knows. -/
def names : List String := ["name", "role", "is_active"]

/-- `UserUpdate(**document)`. -/
def decode (document : Json) : Outcome UserUpdate := do
  let fields ← Schema.arguments document
  Schema.forbidExtra names fields
  let name ← Schema.field (Patch.decode (BoundedText.codec 1 120)) fields "name"
  let role ← Schema.field (Patch.decode (enumeration UserRole)) fields "role"
  let isActive ← Schema.field (Patch.decode JsonCodec.bool) fields "is_active"
  pure ⟨name, role, isActive⟩

/-- The entries of `model_dump(mode="json", exclude_unset=True)`; a field not sent has none. -/
def entries (data : UserUpdate) : List (String × Option Json) :=
  [("name", data.name.encode (BoundedText.codec 1 120)),
    ("role", data.role.encode (enumeration UserRole)),
    ("is_active", data.isActive.encode JsonCodec.bool)]

/-- `data.model_dump(mode="json", exclude_unset=True)`. -/
def encode (data : UserUpdate) : Json := .obj (Json.sparse data.entries)

/-- A dumped value is accepted again, with the same fields sent. -/
theorem decode_encode (data : UserUpdate) : decode data.encode = .ok data := by
  have covers : data.entries.map Prod.fst = names := rfl
  have distinct : (data.entries.map Prod.fst).Nodup := by rw [covers]; decide
  simp only [decode, encode, Schema.arguments, Schema.forbidExtra_sparse covers, Schema.field,
    Json.lookup_sparse _ distinct, bind, Except.bind]
  simp [entries, List.lookup_cons, Outcome.ofOption, pure, Except.pure]

end UserUpdate

end MarketingOS
