import MarketingOS.Base.Json

/-!
# Text as Python reads it

What the string methods of the source take from the Unicode database, and how a value is formatted
into a text. The tables are an argument; the ASCII part of them stands for them in tests.
-/
namespace MarketingOS

/-- A text in lower case, letter by letter, as it is for an ASCII text. -/
def lowerAscii (text : String) : String := String.ofList (text.toList.map Char.toLower)

/-- The string functions that depend on the Unicode database, and `repr` of a container. -/
structure TextTables where
  /-- `text.lower()` -/
  lower : String → String
  lower_ascii : ∀ text : String, (∀ c ∈ text.toList, c.toNat < 128) → lower text = lowerAscii text
  /-- `text.title()` -/
  title : String → String
  /-- `c.isalnum()` -/
  isAlnum : Char → Bool
  /-- `repr(value)` of a list or a dictionary. -/
  repr : Json → String

namespace TextTables

/-- Every letter after a non-letter in upper case and every other letter in lower case. -/
def asciiTitle : Bool → List Char → List Char
  | _, [] => []
  | inWord, c :: rest => (if inWord then c.toLower else c.toUpper) :: asciiTitle c.isAlpha rest

/-- The tables on ASCII texts. Containers are written as if they were empty. -/
def ascii : TextTables where
  lower := lowerAscii
  lower_ascii _ _ := rfl
  title text := String.ofList (asciiTitle false text.toList)
  isAlnum := Char.isAlphanum
  repr
    | .arr _ => "[]"
    | _ => "\x7b\x7d"

/-- `str(value)` and the text of a value in a formatted string. -/
def str (tables : TextTables) : Json → String
  | .null => "None"
  | .bool true => "True"
  | .bool false => "False"
  | .int value => toString value
  | .str value => value
  | .arr items => tables.repr (.arr items)
  | .obj fields => tables.repr (.obj fields)

end TextTables

namespace Json

/-- `bool(value)` -/
def truthy : Json → Bool
  | .null => false
  | .bool value => value
  | .int value => value ≠ 0
  | .str value => value ≠ ""
  | .arr items => !items.isEmpty
  | .obj fields => !fields.isEmpty

/-- `left or right` -/
def orElse (left right : Json) : Json := if left.truthy then left else right

/-- `value.get(name)`; only a dictionary has it. -/
def get? (value : Json) (name : String) : Option Json :=
  match value with
  | .obj fields => some ((fields.lookup name).getD .null)
  | _ => none

end Json

end MarketingOS
