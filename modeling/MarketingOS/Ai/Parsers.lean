import MarketingOS.Base.Json

/-!
# Parsing model output

What a model answers is untrusted text. `parse_json_object` cuts it to the outermost braces and
reads the rest with `json.loads`, which is an argument: it also says which of its exceptions the
function does not expect.
-/
namespace MarketingOS

/-- What `json.loads` returns. `ν` holds the `int` and `float` values, which no reader looks
into. -/
inductive JsonValue (ν : Type) where
  | none
  | bool (value : Bool)
  | number (value : ν)
  | str (value : String)
  | list (items : List (JsonValue ν))
  | dict (entries : List (String × JsonValue ν))

namespace JsonValue

variable {ν : Type}

/-- `d.get(key)` on the entries of a dictionary. -/
def get (entries : List (String × JsonValue ν)) (key : String) : JsonValue ν :=
  (entries.lookup key).getD .none

/-- Whether `hash(value)` is defined. -/
def hashable : JsonValue ν → Bool
  | .list _ | .dict _ => false
  | _ => true

end JsonValue

/-- What `json.loads` raises. -/
inductive LoadsError where
  /-- `json.JSONDecodeError` -/
  | jsonDecodeError
  /-- Another `ValueError`: an integer with too many digits. -/
  | valueError
  /-- Any other exception: a `RecursionError` of a text nested too deeply. -/
  | other
deriving DecidableEq

/-- `raw[raw.find("{") : raw.rfind("}") + 1]`, when the braces are there in this order. -/
def outermostBraces (raw : String) : Option String :=
  let text := raw.toList
  match text.findIdx? (· = '\x7b'), text.reverse.findIdx? (· = '\x7d') with
  | some start, some fromEnd =>
    if text.length - fromEnd - 1 ≤ start then none
    else some (String.ofList ((text.drop start).take (text.length - fromEnd - start)))
  | _, _ => none

/-- `parse_json_object` -/
def parseJsonObject {ν : Type} (loads : String → Except LoadsError (JsonValue ν)) (raw : String) :
    Except LoadsError (Option (List (String × JsonValue ν))) :=
  match outermostBraces raw with
  | none => .ok none
  | some body =>
    match loads body with
    | .ok (.dict entries) => .ok (some entries)
    | .ok _ => .ok none
    | .error .jsonDecodeError => .ok none
    | .error error => .error error

end MarketingOS
