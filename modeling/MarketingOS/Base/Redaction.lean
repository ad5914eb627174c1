/-!
# Redaction of keyed documents

A document is a tree of objects and lists over numbers of any kind. Two documents differ only in
secrets when they are the same with every value under a secret key hidden, at whatever depth it
stands; hiding the values under the keys at the top alone tells more documents apart.
-/
namespace MarketingOS

/-- A decoded JSON document; the numbers are left open. -/
inductive JsonTree (Number : Type) where
  | null
  | bool (value : Bool)
  | number (value : Number)
  | str (value : String)
  | arr (items : List (JsonTree Number))
  | obj (fields : List (String × JsonTree Number))

namespace JsonTree

variable {Number : Type}

/-- Whether a document is null. -/
def isNull : JsonTree Number → Bool
  | .null => true
  | _ => false

mutual

/-- A document without the values under its secret keys, at any depth. -/
def hide (secret : String → Bool) : JsonTree Number → JsonTree Number
  | .null => .null
  | .bool value => .bool value
  | .number value => .number value
  | .str value => .str value
  | .arr items => .arr (hideItems secret items)
  | .obj fields => .obj (hideFields secret fields)

/-- The items of a list without their secrets. -/
def hideItems (secret : String → Bool) : List (JsonTree Number) → List (JsonTree Number)
  | [] => []
  | item :: rest => hide secret item :: hideItems secret rest

/-- The fields of an object without the values under secret keys. -/
def hideFields (secret : String → Bool) :
    List (String × JsonTree Number) → List (String × JsonTree Number)
  | [] => []
  | (key, value) :: rest =>
    (key, if secret key then .null else hide secret value) :: hideFields secret rest

end

/-- The fields of an object without the values under its own secret keys. -/
def hideTopFields (secret : String → Bool) (fields : List (String × JsonTree Number)) :
    List (String × JsonTree Number) :=
  fields.map fun field => (field.1, if secret field.1 then .null else field.2)

/-- A document without the values under the secret keys at its top. -/
def hideTop (secret : String → Bool) : JsonTree Number → JsonTree Number
  | .obj fields => .obj (hideTopFields secret fields)
  | document => document

variable {secret : String → Bool}

/-- Only null is null. -/
theorem isNull_iff {document : JsonTree Number} : document.isNull = true ↔ document = .null := by
  cases document <;> simp [isNull]

/-- Hiding secrets makes no null. -/
@[simp] theorem isNull_hide (secret : String → Bool) (document : JsonTree Number) :
    (document.hide secret).isNull = document.isNull := by
  cases document <;> rfl

/-- Hiding secrets makes no object. -/
theorem hide_eq_obj {document : JsonTree Number} {fields : List (String × JsonTree Number)} :
    document.hide secret = .obj fields ↔
      ∃ own, document = .obj own ∧ hideFields secret own = fields := by
  cases document <;> simp [hide]

end JsonTree

end MarketingOS
