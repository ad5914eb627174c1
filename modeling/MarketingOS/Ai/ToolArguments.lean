import MarketingOS.Ai.CommandAgent
import MarketingOS.Ai.Scope
import MarketingOS.Integrations.Answers

/-!
# Arguments of tool calls

The arguments of a call are what the model wrote: JSON of any shape under any name. The handlers
read them by hand, and what a wrong shape raises depends on the reading: the dispatcher turns a
`TypeError` and a `ValueError` into a tool result and lets any other exception through.
-/
namespace MarketingOS.ToolHandlers

open CommandAgent (Raised)
open Integrations (JsonTables)

variable {ν : Type}

/-- The arguments of a call, as `json.loads` reads them. -/
abbrev RawArguments (ν : Type) : Type := List (String × JsonValue ν)

/-- How Python and pydantic read and show the values of a call. -/
structure Reading (ν : Type) extends Readers where
  json : JsonTables ν
  /-- pydantic's reading of a truth value. -/
  readBool : JsonValue ν → Option Bool
  /-- `min(limit, 10)` of a number as the end of a slice; nothing where it is no integer. -/
  sliceEnd : ν → Option Int
  /-- The text of the `ValidationError` of a schema. -/
  invalid : String → String
  /-- The text of an exception of a service. -/
  shown : PyError → String

/-- A `TypeError` or a `ValueError`. -/
def rejected {α : Type} (text : String) : Except Raised α := .error (.argument text)

/-- An exception of another class. -/
def escaped {α : Type} (text : String) : Except Raised α := .error (.other text)

/-- A value, or the `ValueError` of a text that names none. -/
def orRejected {α : Type} (text : String) : Option α → Except Raised α
  | none => rejected text
  | some value => .ok value

/-- A service call, with the exceptions it raises. -/
def ofOutcome {α : Type} (shown : PyError → String) : Outcome α → Except Raised α
  | .ok value => .ok value
  | .error (.app error) => .error (.app error)
  | .error (.other .typeError) => rejected (shown .typeError)
  | .error (.other .valueError) => rejected (shown .valueError)
  | .error (.other .validationError) => rejected (shown .validationError)
  | .error (.other error) => escaped (shown error)

/-! ## Keyword arguments -/

/-- The parameters of a handler: those the dispatcher fills, and the keyword-only ones. -/
structure Signature where
  name : String
  positional : List String := ["db", "client_id", "user"]
  required : List String := []
  optional : List String := []

/-- `handler(db, client_id, user, **arguments)` — the names of the arguments are checked. -/
def Signature.accept (signature : Signature) (arguments : RawArguments ν) : Except Raised Unit :=
  match arguments.find? fun entry => signature.positional.contains entry.1 with
  | some (key, _) =>
    rejected (signature.name ++ "() got multiple values for argument '" ++ key ++ "'")
  | none =>
    match arguments.find? fun entry =>
        !(signature.required ++ signature.optional).contains entry.1 with
    | some (key, _) =>
      rejected (signature.name ++ "() got an unexpected keyword argument '" ++ key ++ "'")
    | none =>
      match signature.required.find? fun key => (arguments.lookup key).isNone with
      | some key =>
        rejected (signature.name ++ "() missing 1 required keyword-only argument: '" ++ key ++ "'")
      | none => .ok ()

/-! ## Values -/

variable (reading : Reading ν)

/-- The `AttributeError` of a value without a method. -/
def noAttribute {α : Type} (value : JsonValue ν) (name : String) : Except Raised α :=
  escaped ("'" ++ reading.json.typeName value ++ "' object has no attribute '" ++ name ++ "'")

/-- `uuid.UUID(value)` -/
def identifier : JsonValue ν → Except Raised Uuid
  | .str text => orRejected "badly formed hexadecimal UUID string" (reading.parseUuid text)
  | .none =>
    rejected "one of the hex, bytes, bytes_le, fields, or int arguments must be given"
  | value => noAttribute reading value "replace"

/-- `date.fromisoformat(value)` -/
def isoDate : JsonValue ν → Except Raised Date
  | .str text =>
    orRejected ("Invalid isoformat string: " ++ reading.json.repr (.str text))
      (reading.fromisoformat text)
  | _ => rejected "fromisoformat: argument must be str"

/-- `Class(value)` of an enumeration. -/
def member (α : Type) [Enumeration α] (className : String) (value : JsonValue ν) :
    Except Raised α :=
  let refusal := reading.json.repr value ++ " is not a valid " ++ className
  match value with
  | .str text => orRejected refusal (Enumeration.ofValue text)
  | _ => rejected refusal

/-- `value.lower()`; the reading keeps the text as it is. -/
def lowered : JsonValue ν → Except Raised String
  | .str text => .ok text
  | value => noAttribute reading value "lower"

/-- `read(value) if value else None` -/
def ifTruthy {α : Type} (read : JsonValue ν → Except Raised α) (value : JsonValue ν) :
    Except Raised (Option α) :=
  if reading.json.truthy value then (read value).map some else .ok none

/-- `for item in value` -/
def iterate : JsonValue ν → Except Raised (List (JsonValue ν))
  | .list items => .ok items
  | .dict entries => .ok (entries.map fun entry => .str entry.1)
  | .str text => .ok (text.toList.map fun c => .str (String.ofList [c]))
  | value => rejected ("'" ++ reading.json.typeName value ++ "' object is not iterable")

/-- `min(limit, 10)`, as the end of a slice. -/
def stopOf : JsonValue ν → Except Raised Int
  | .bool true => .ok 1
  | .bool false => .ok 0
  | .number value =>
    orRejected "slice indices must be integers or None or have an __index__ method"
      (reading.sliceEnd value)
  | value =>
    rejected ("'<' not supported between instances of 'int' and '" ++
      reading.json.typeName value ++ "'")

/-- `value[key]` of an item of a list. -/
def subscript (key : String) : JsonValue ν → Except Raised (JsonValue ν)
  | .dict entries =>
    match entries.lookup key with
    | some value => .ok value
    | none => escaped ("'" ++ key ++ "'")
  | .str _ => rejected "string indices must be integers, not 'str'"
  | .list _ => rejected "list indices must be integers or slices, not str"
  | value => rejected ("'" ++ reading.json.typeName value ++ "' object is not subscriptable")

/-! ## Fields of schemas -/

/-- The `ValidationError` of a schema. -/
def refuse {α : Type} (schema : String) : Except Raised α := rejected (reading.invalid schema)

/-- What a schema makes of a value. -/
def accepted {α : Type} (schema : String) : Outcome α → Except Raised α
  | .ok value => .ok value
  | .error _ => refuse reading schema

/-- A required text field. -/
def textField (schema : String) (lower upper : Nat) :
    JsonValue ν → Except Raised (BoundedText lower upper)
  | .str text =>
    if fits : lower ≤ text.length ∧ text.length ≤ upper then .ok ⟨text, fits⟩
    else refuse reading schema
  | _ => refuse reading schema

/-- A field that is read where the argument is not null. -/
def unlessNull {α : Type} (read : JsonValue ν → Except Raised α) :
    JsonValue ν → Except Raised (Option α)
  | .none => .ok none
  | value => (read value).map some

/-- A partial field, sent where the argument is not null. -/
def sentUnlessNull {α : Type} (read : JsonValue ν → Except Raised α) (value : JsonValue ν) :
    Except Raised (Patch α) :=
  (unlessNull read value).map fun read => read.map some

/-- A truth value of a schema. -/
def boolField (schema : String) (value : JsonValue ν) : Except Raised Bool :=
  match reading.readBool value with
  | some value => .ok value
  | none => refuse reading schema

end MarketingOS.ToolHandlers
