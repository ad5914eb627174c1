/-!
# JSON values and their codecs

A codec writes a value as JSON and reads one back, and carries its round-trip law in its
value. Codecs never write null, so an optional value is written as null or as its value, and a
field of a partial record is absent, null or a value: the three cases stay apart on the way
back. A record is a list of keyed fields; `sparse` writes only the fields that are present.
-/
namespace MarketingOS

/-- A JSON document without fractional numbers. -/
inductive Json where
  | null
  | bool (value : Bool)
  | int (value : Int)
  | str (value : String)
  | arr (items : List Json)
  | obj (fields : List (String × Json))
deriving Repr

namespace Json

mutual

/-- Equality of two documents, by the shape of both. -/
def decEq : (left right : Json) → Decidable (left = right)
  | .null, .null => isTrue rfl
  | .bool a, .bool b => decidable_of_iff (a = b) (by simp)
  | .int a, .int b => decidable_of_iff (a = b) (by simp)
  | .str a, .str b => decidable_of_iff (a = b) (by simp)
  | .arr a, .arr b => @decidable_of_iff _ (a = b) (by simp) (decEqItems a b)
  | .obj a, .obj b => @decidable_of_iff _ (a = b) (by simp) (decEqFields a b)
  | .null, .bool _ | .null, .int _ | .null, .str _ | .null, .arr _ | .null, .obj _
  | .bool _, .null | .bool _, .int _ | .bool _, .str _ | .bool _, .arr _ | .bool _, .obj _
  | .int _, .null | .int _, .bool _ | .int _, .str _ | .int _, .arr _ | .int _, .obj _
  | .str _, .null | .str _, .bool _ | .str _, .int _ | .str _, .arr _ | .str _, .obj _
  | .arr _, .null | .arr _, .bool _ | .arr _, .int _ | .arr _, .str _ | .arr _, .obj _
  | .obj _, .null | .obj _, .bool _ | .obj _, .int _ | .obj _, .str _ | .obj _, .arr _ =>
    isFalse (fun h => by cases h)

/-- Equality of two item lists. -/
def decEqItems : (left right : List Json) → Decidable (left = right)
  | [], [] => isTrue rfl
  | [], _ :: _ => isFalse (fun h => by cases h)
  | _ :: _, [] => isFalse (fun h => by cases h)
  | a :: left, b :: right =>
    have := decEq a b
    have := decEqItems left right
    decidable_of_iff (a = b ∧ left = right) (by simp)

/-- Equality of two field lists. -/
def decEqFields : (left right : List (String × Json)) → Decidable (left = right)
  | [], [] => isTrue rfl
  | [], _ :: _ => isFalse (fun h => by cases h)
  | _ :: _, [] => isFalse (fun h => by cases h)
  | (k, a) :: left, (l, b) :: right =>
    have := decEq a b
    have := decEqFields left right
    decidable_of_iff ((k = l ∧ a = b) ∧ left = right) (by simp)

end

instance : DecidableEq Json := decEq

end Json

/-- A closed set of values, each written as a name of its own. -/
class Enumeration (α : Type) where
  /-- Every value, in declaration order. -/
  members : List α
  /-- The name a value is stored under. -/
  value : α → String
  /-- The first member with a value's name is the value. -/
  named : ∀ a, members.find? (fun member => decide (value member = value a)) = some a

namespace Enumeration

variable {α : Type} [Enumeration α]

/-- The value a name stands for; nothing for a name outside the set. -/
def ofValue (name : String) : Option α :=
  members.find? fun member => decide (value member = name)

/-- The name of a value stands for it. -/
@[simp] theorem ofValue_value (a : α) : ofValue (value a) = some a := named a

/-- Different values have different names. -/
theorem value_injective : Function.Injective (value : α → String) := by
  intro left right same
  have read := congrArg (ofValue (α := α)) same
  rw [ofValue_value, ofValue_value] at read
  exact Option.some.inj read

end Enumeration

/-- A writer and a reader of one type, with the round-trip law of the pair. -/
structure JsonCodec (α : Type) where
  /-- Write a value. -/
  encode : α → Json
  /-- Read a value, refusing every document that holds none. -/
  decode : Json → Option α
  /-- A written value is read back. -/
  law : ∀ value, decode (encode value) = some value
  /-- No value is written as null. -/
  notNull : ∀ value, encode value ≠ .null

namespace JsonCodec

variable {α β : Type}

/-- Any string. -/
def string : JsonCodec String where
  encode := .str
  decode
    | .str value => some value
    | _ => none
  law _ := rfl
  notNull _ := by simp

/-- A truth value. -/
def bool : JsonCodec Bool where
  encode := .bool
  decode
    | .bool value => some value
    | _ => none
  law _ := rfl
  notNull _ := by simp

/-- A value with a written text form and a parser that reads it back. -/
def text (print : α → String) (parse : String → Option α)
    (inverse : ∀ value, parse (print value) = some value) : JsonCodec α where
  encode value := .str (print value)
  decode
    | .str written => parse written
    | _ => none
  law := inverse
  notNull _ := by simp

/-- The values of a type that meet a checked condition. -/
def refine (codec : JsonCodec α) (legal : α → Prop) [DecidablePred legal] :
    JsonCodec { value : α // legal value } where
  encode value := codec.encode value.val
  decode document := (codec.decode document).bind fun value =>
    if h : legal value then some ⟨value, h⟩ else none
  law value := by simp [codec.law, value.property]
  notNull value := codec.notNull value.val

/-- A list, item by item; one refused item refuses the list. -/
def list (codec : JsonCodec α) : JsonCodec (List α) where
  encode values := .arr (values.map codec.encode)
  decode
    | .arr items => items.mapM codec.decode
    | _ => none
  law values := by
    induction values with
    | nil => rfl
    | cons value values ih =>
      simp only [List.map_cons, List.mapM_cons, codec.law] at ih ⊢
      simp [ih]
  notNull _ := by simp

/-- An optional value: null, or the value. -/
def encodeNullable (codec : JsonCodec α) : Option α → Json
  | none => .null
  | some value => codec.encode value

/-- Read an optional value. -/
def decodeNullable (codec : JsonCodec α) : Json → Option (Option α)
  | .null => some none
  | document => (codec.decode document).map some

/-- A written optional value is read back. -/
@[simp] theorem decodeNullable_encodeNullable (codec : JsonCodec α) (value : Option α) :
    codec.decodeNullable (codec.encodeNullable value) = some value := by
  cases value with
  | none => rfl
  | some value =>
    have written := codec.notNull value
    have law := codec.law value
    simp only [encodeNullable]
    cases document : codec.encode value <;> simp_all [decodeNullable]

/-- The values of an enumeration, each under its name. -/
def enumeration (α : Type) [Enumeration α] : JsonCodec α :=
  text Enumeration.value Enumeration.ofValue Enumeration.ofValue_value

/-- A required field. -/
def required (codec : JsonCodec α) (found : Option Json) : Option α := found.bind codec.decode

/-- A written required field is read back. -/
@[simp] theorem required_encode (codec : JsonCodec α) (value : α) :
    codec.required (some (codec.encode value)) = some value := codec.law value

/-- A field that has a default. -/
def withDefault (codec : JsonCodec α) (default : α) : Option Json → Option α
  | none => some default
  | some document => codec.decode document

/-- A written field that has a default is read back. -/
@[simp] theorem withDefault_encode (codec : JsonCodec α) (default value : α) :
    codec.withDefault default (some (codec.encode value)) = some value := codec.law value

/-- An optional field whose default is none. -/
def optional (codec : JsonCodec α) : Option Json → Option (Option α)
  | none => some none
  | some document => codec.decodeNullable document

/-- A written optional field is read back. -/
@[simp] theorem optional_encodeNullable (codec : JsonCodec α) (value : Option α) :
    codec.optional (some (codec.encodeNullable value)) = some value :=
  codec.decodeNullable_encodeNullable value

end JsonCodec

/-- A field of a partial update: not sent, sent as null, or sent with a value. -/
abbrev Patch (α : Type) : Type := Option (Option α)

namespace Patch

variable {α : Type}

/-- What the field reads as: a field that was not sent reads as null. -/
def read (patch : Patch α) : Option α := patch.join

/-- The column after the update: a field that was not sent keeps the stored value. -/
def onto (patch : Patch α) (stored : Option α) : Option α := patch.getD stored

/-- Whether the field was sent. -/
def sent (patch : Patch α) : Bool := patch.isSome

/-- A field that was sent, as JSON; nothing for a field that was not. -/
def encode (codec : JsonCodec α) (patch : Patch α) : Option Json :=
  patch.map codec.encodeNullable

/-- Read a field of a partial update. -/
def decode (codec : JsonCodec α) : Option Json → Option (Patch α)
  | none => some none
  | some document => (codec.decodeNullable document).map some

/-- A written field of a partial update is read back, and a field not sent stays so. -/
@[simp] theorem decode_encode (codec : JsonCodec α) (patch : Patch α) :
    decode codec (encode codec patch) = some patch := by
  cases patch <;> simp [encode, decode]

end Patch

namespace Json

/-- The fields that are present, in order. -/
def sparse (entries : List (String × Option Json)) : List (String × Json) :=
  entries.filterMap fun entry => entry.2.map fun document => (entry.1, document)

/-- Whether a record has no key outside a list. -/
def onlyKeys (allowed : List String) (fields : List (String × Json)) : Bool :=
  fields.all fun entry => allowed.contains entry.1

/-- A key of a sparse record is a key of its entries. -/
theorem mem_keys_sparse {entries : List (String × Option Json)} {entry : String × Json}
    (inside : entry ∈ sparse entries) : entry.1 ∈ entries.map Prod.fst := by
  simp only [sparse, List.mem_filterMap, Option.map_eq_some_iff] at inside
  obtain ⟨source, member, document, _, rfl⟩ := inside
  exact List.mem_map_of_mem member

/-- A sparse record has no key outside the keys of its entries. -/
theorem onlyKeys_sparse {entries : List (String × Option Json)} {allowed : List String}
    (covers : entries.map Prod.fst = allowed) : onlyKeys allowed (sparse entries) = true := by
  simp only [onlyKeys, List.all_eq_true, List.contains_iff_mem]
  intro entry inside
  rw [← covers]
  exact mem_keys_sparse inside

/-- Looking a key up in a sparse record returns the entry's document when there is one. -/
theorem lookup_sparse {entries : List (String × Option Json)} (k : String)
    (distinct : (entries.map Prod.fst).Nodup) :
    (sparse entries).lookup k = (entries.lookup k).join := by
  induction entries with
  | nil => rfl
  | cons entry entries ih =>
    obtain ⟨name, document⟩ := entry
    simp only [List.map_cons, List.nodup_cons] at distinct
    have rest := ih distinct.2
    have absent : k = name → (sparse entries).lookup k = none := by
      rintro rfl
      rw [List.lookup_eq_none_iff]
      intro later inside
      have listed := mem_keys_sparse inside
      by_cases same : k = later.1
      · exact absurd (same ▸ listed) distinct.1
      · simpa using same
    by_cases same : k = name
    · have front : ((name, document) :: entries).lookup k = some document := by simp [same]
      rw [front]
      cases document with
      | none => simpa [sparse] using absent same
      | some document => simp [sparse, same]
    · have test : (k == name) = false := beq_eq_false_iff_ne.mpr same
      rw [List.lookup_cons, test, ← rest]
      cases document with
      | none => rfl
      | some document => simp [sparse, List.lookup_cons, test]

end Json

end MarketingOS
