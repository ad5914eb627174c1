import MarketingOS.Ai.Parsers
import MarketingOS.Models.Values
import MarketingOS.Services.Integration

/-!
# Answers of the providers

What a provider client makes of the answer to one of its requests: the body is read as JSON, and
numbers are taken from it with `int` and `float`. Python's own readings of a JSON value are given:
a `float` is of a type `φ`, and only its operations are known.
-/
namespace MarketingOS.Integrations

open IntegrationService (SyncError)

variable {ν φ : Type}

/-- How Python shows and reads a JSON value. -/
structure JsonTables (ν : Type) where
  /-- `value == 0` of a number -/
  isZero : ν → Bool
  /-- `type(value).__name__` of a number -/
  numberType : ν → String
  /-- `repr(value)` -/
  repr : JsonValue ν → String

namespace JsonTables

variable (tables : JsonTables ν)

/-- `bool(value)` -/
def truthy : JsonValue ν → Bool
  | .none => false
  | .bool value => value
  | .number value => !tables.isZero value
  | .str value => value ≠ ""
  | .list items => !items.isEmpty
  | .dict entries => !entries.isEmpty

/-- `left or right` -/
def orElse (left right : JsonValue ν) : JsonValue ν := if tables.truthy left then left else right

/-- `type(value).__name__` -/
def typeName : JsonValue ν → String
  | .none => "NoneType"
  | .bool _ => "bool"
  | .number value => tables.numberType value
  | .str _ => "str"
  | .list _ => "list"
  | .dict _ => "dict"

/-- `f"{value}"` -/
def format : JsonValue ν → String
  | .str value => value
  | value => tables.repr value

/-- The `AttributeError` of a value without a method. -/
def noAttribute (value : JsonValue ν) (name : String) : SyncError :=
  .other ("'" ++ tables.typeName value ++ "' object has no attribute '" ++ name ++ "'")

/-- `value.get(...)` — the entries that are looked into. -/
def entries : JsonValue ν → Except SyncError (List (String × JsonValue ν))
  | .dict entries => .ok entries
  | value => .error (tables.noAttribute value "get")

/-- `for item in value` and `list.extend(value)` -/
def iterate : JsonValue ν → Except SyncError (List (JsonValue ν))
  | .list items => .ok items
  | .dict entries => .ok (entries.map fun entry => .str entry.1)
  | .str text => .ok (text.toList.map fun c => .str (String.ofList [c]))
  | value => .error (.other ("'" ++ tables.typeName value ++ "' object is not iterable"))

end JsonTables

/-! ## Numbers -/

/-- Why a value is no number, with the text of the exception. -/
inductive NumberError where
  | typeError (text : String)
  | valueError (text : String)
  | overflowError (text : String)
deriving DecidableEq

/-- The exception as the caller of a client sees it. -/
def NumberError.raised : NumberError → SyncError
  | .typeError text | .valueError text | .overflowError text => .other text

/-- A number, or its exception as the caller of a client sees it. -/
def orRaise {α : Type} (result : Except NumberError α) : Except SyncError α :=
  result.mapError NumberError.raised

/-- The arithmetic of `int` and `float` on JSON values. -/
structure Numerals (ν φ : Type) where
  /-- `float(value)` -/
  float : JsonValue ν → Except NumberError φ
  /-- `int(value)` -/
  int : JsonValue ν → Except NumberError Int
  /-- `int(x)` of a float -/
  trunc : φ → Except NumberError Int
  zero : φ
  add : φ → φ → φ
  /-- `round(x, 2)` -/
  round2 : φ → φ
  /-- `n / 1_000_000` -/
  perMillion : Int → Except NumberError φ

/-- The calendar as a client reads it. -/
structure Calendar where
  today : Date
  /-- `date.fromisoformat(text)`; nothing where it raises `ValueError` -/
  fromIsoFormat : String → Option Date

section Reading

variable (tables : JsonTables ν) (numerals : Numerals ν φ)

/-- `int(float(value or 0))` -/
def readCount (value : JsonValue ν) : Except NumberError Int :=
  if tables.truthy value then numerals.float value >>= numerals.trunc else .ok 0

/-- `int(value or 0)` -/
def readInt (value : JsonValue ν) : Except NumberError Int :=
  if tables.truthy value then numerals.int value else .ok 0

/-- `float(value or 0)` -/
def readFloat (value : JsonValue ν) : Except NumberError φ :=
  if tables.truthy value then numerals.float value else .ok numerals.zero

end Reading

/-- The facts of a day, by the names of the fields of `AnalyticsDailyIn`. -/
structure DailyFacts (φ : Type) where
  date : Date
  impressions : Int
  clicks : Int
  spend : φ
  conversions : Int
  leads : Int
  revenue : φ
deriving DecidableEq

/-! ## Responses -/

/-- A response; its body is nothing where reading it raises `ValueError`, and any other exception
of the reader is kept with its text. -/
structure Response (ν : Type) where
  statusCode : Nat
  json : Except (Option String) (JsonValue ν)
  text : String

/-- What a request comes to. -/
inductive Answer (ν : Type) where
  /-- `httpx.HTTPError`, with its text. -/
  | unreachable (text : String)
  /-- An exception outside `httpx.HTTPError` (`httpx.InvalidURL`), with its text. -/
  | raised (text : String)
  | response (resp : Response ν)

/-- `_safe_json` -/
def safeJson (resp : Response ν) : Except SyncError (List (String × JsonValue ν)) :=
  match resp.json with
  | .ok (.dict entries) => .ok entries
  | .ok value => .ok [("data", value)]
  | .error none => .ok []
  | .error (some text) => .error (.other text)

/-- `key in payload` -/
def holdsKey (payload : List (String × JsonValue ν)) (key : String) : Bool :=
  (payload.lookup key).isSome

/-- `value or resp.text[:200]`, in a message. -/
def orResponseText (tables : JsonTables ν) (value : JsonValue ν) (resp : Response ν) : String :=
  if tables.truthy value then tables.format value else clip 200 resp.text

end MarketingOS.Integrations
