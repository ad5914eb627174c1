import Mathlib.Data.List.DropRight
import MarketingOS.Core.Environment
import MarketingOS.Core.Exceptions

/-!
# Schema building blocks

What the request schemas share: text bounds, the refusal of unknown keys, the reading of one
field, and the time zone validator.
-/
namespace MarketingOS

/-- `MAX_TEXT` — bound of a free text. -/
def maxText : Nat := 100000

/-- `MAX_LONG_LINE` — bound of a long single line. -/
def maxLongLine : Nat := 2000

namespace Schema

/-- `Schema(**document)` — the keyword arguments of a document; only a mapping has some. -/
def arguments : Json → Outcome (List (String × Json))
  | .obj fields => .ok fields
  | _ => raised .typeError

/-- `StrictModel` — an unknown key refuses the document. -/
def forbidExtra (allowed : List String) (fields : List (String × Json)) : Outcome Unit :=
  if Json.onlyKeys allowed fields then .ok () else raised .validationError

/-- One field of a schema, by the reader of its value. -/
def field {α : Type} (reader : Option Json → Option α) (fields : List (String × Json))
    (name : String) : Outcome α := Outcome.ofOption .validationError (reader (fields.lookup name))

/-- A sparse record whose keys are the allowed ones has no unknown key. -/
theorem forbidExtra_sparse {allowed : List String} {entries : List (String × Option Json)}
    (covers : entries.map Prod.fst = allowed) :
    forbidExtra allowed (Json.sparse entries) = .ok () := by
  simp only [forbidExtra, Json.onlyKeys_sparse covers, ↓reduceIte]

end Schema

/-- The characters `str.strip` drops. -/
def isSpace (c : Char) : Bool :=
  (0x09 ≤ c.toNat && c.toNat ≤ 0x0d) || (0x1c ≤ c.toNat && c.toNat ≤ 0x20) || c.toNat == 0x85 ||
    c.toNat == 0xa0 || c.toNat == 0x1680 || (0x2000 ≤ c.toNat && c.toNat ≤ 0x200a) ||
    c.toNat == 0x2028 || c.toNat == 0x2029 || c.toNat == 0x202f || c.toNat == 0x205f ||
    c.toNat == 0x3000

/-- `str.strip` on the characters of a text. -/
def stripChars (text : List Char) : List Char := (text.dropWhile isSpace).rdropWhile isSpace

/-- `text.strip()`. -/
def strip (text : String) : String := String.ofList (stripChars text.toList)

/-- What is left after stripping begins with no blank. -/
theorem dropWhile_stripChars (text : List Char) :
    (stripChars text).dropWhile isSpace = stripChars text := by
  obtain ⟨tail, split⟩ := List.rdropWhile_prefix isSpace (text.dropWhile isSpace)
  have front : (text.dropWhile isSpace).dropWhile isSpace = text.dropWhile isSpace :=
    List.dropWhile_idempotent _ _
  unfold stripChars
  cases left : List.rdropWhile isSpace (text.dropWhile isSpace) with
  | nil => rfl
  | cons c rest =>
    rw [left] at split
    rw [← split, List.cons_append, List.dropWhile_cons] at front
    by_cases blank : isSpace c = true
    · -- the front would be shorter than itself
      simp only [blank, ↓reduceIte] at front
      have shorter := (List.dropWhile_sublist isSpace (l := rest ++ tail)).length_le
      rw [front] at shorter
      exact absurd shorter (by simp)
    · rw [List.dropWhile_cons_of_neg blank]

/-- Stripping twice strips once. -/
@[simp] theorem strip_strip (text : String) : strip (strip text) = strip text := by
  have again : stripChars (stripChars text.toList) = stripChars text.toList := by
    conv_lhs => rw [stripChars, dropWhile_stripChars]
    exact List.rdropWhile_idempotent _ _
  simp only [strip, String.toList_ofList, again]

/-- Stripping makes no text longer. -/
theorem length_strip (text : String) : (strip text).length ≤ text.length := by
  rw [strip, String.length_ofList, ← String.length_toList]
  exact (List.rdropWhile_prefix isSpace _).length_le.trans
    (List.dropWhile_sublist isSpace).length_le

/-- A time zone name as the validator leaves it: stripped, not blank and an IANA zone. -/
abbrev Timezone (env : Environment) : Type :=
  { tz : String // tz.length ≤ 60 ∧ strip tz = tz ∧ tz ≠ "" ∧ tz ∈ env.availableTimezones }

/-- `validate_timezone` after `Field(max_length=60)` — a blank name counts as not set. -/
def validateTimezone (env : Environment) (value : String) : Option (Option (Timezone env)) :=
  if short : value.length ≤ 60 then
    if blank : strip value = "" then some none
    else if known : strip value ∈ env.availableTimezones then
      some (some ⟨strip value, (length_strip value).trans short, strip_strip value, blank, known⟩)
    else none
  else none

/-- A validated time zone name is accepted again as it is. -/
theorem validateTimezone_self {env : Environment} (tz : Timezone env) :
    validateTimezone env tz.val = some (some tz) := by
  obtain ⟨tz, short, stripped, named, known⟩ := tz
  simp only [validateTimezone, short, stripped, named, known, ↓reduceDIte]

/-- Write a time zone field of a partial update. -/
def Timezone.encode {env : Environment} (patch : Patch (Timezone env)) : Option Json :=
  patch.map fun value => match value with
    | none => .null
    | some tz => .str tz.val

/-- Read a time zone field of a partial update. -/
def Timezone.decode (env : Environment) : Option Json → Option (Patch (Timezone env))
  | none => some none
  | some .null => some (some none)
  | some (.str value) => (validateTimezone env value).map some
  | some _ => none

/-- A written time zone field is read back. -/
@[simp] theorem Timezone.decode_encode {env : Environment} (patch : Patch (Timezone env)) :
    Timezone.decode env (Timezone.encode patch) = some patch := by
  match patch with
  | none => rfl
  | some none => rfl
  | some (some tz) => simp [Timezone.encode, Timezone.decode, validateTimezone_self]

end MarketingOS
