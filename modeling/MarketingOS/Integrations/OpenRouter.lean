import MarketingOS.Base.Dict
import MarketingOS.Schemas.Common

/-!
# OpenRouter client

Tool calls of one round of the model, read from a whole response or from a stream of events. What
`json.loads` makes of a text is a parameter: `α` is what the arguments of a call are parsed to.
-/
namespace MarketingOS.OpenRouter

variable {α : Type}

/-- Why reading a response failed, with the text of the exception. -/
inductive Failure where
  | jsonDecodeError (text : String)
  | typeError (text : String)
  | other (text : String)
deriving DecidableEq

/-- `str(exc)` -/
def Failure.text : Failure → String
  | .jsonDecodeError text | .typeError text | .other text => text

/-- `ToolCall` -/
structure ToolCall (α : Type) where
  id : String
  name : String
  arguments : α
deriving DecidableEq

/-- `ToolCallResponse` -/
structure ToolCallResponse (α : Type) where
  content : Option String
  toolCalls : List (ToolCall α)
deriving DecidableEq

/-- `StreamDelta` -/
structure StreamDelta (α : Type) where
  text : Option String
  toolCall : Option (ToolCall α)
deriving DecidableEq

/-! ## The wire format

A field that is null or absent is none. -/

/-- The `arguments` of a function: a text, or a value of another type with its truth. -/
inductive ArgumentsField where
  | text (value : String)
  | other (truthy : Bool)
deriving DecidableEq

/-- The `function` of a tool call or of a fragment of one. -/
structure FunctionField where
  name : Option String
  arguments : Option ArgumentsField
deriving DecidableEq

/-- One entry of `message.tool_calls`. -/
structure RawCall where
  id : Option String
  function : Option FunctionField
deriving DecidableEq

/-- The `message` of a choice. -/
structure RawMessage where
  content : Option String
  toolCalls : List RawCall
deriving DecidableEq

/-- A whole response: the message of each choice. -/
structure Body where
  choices : List (Option RawMessage)
deriving DecidableEq

/-- One entry of `delta.tool_calls`. -/
structure Fragment where
  index : Option Int
  id : Option String
  function : Option FunctionField
deriving DecidableEq

/-- The `delta` of a choice. -/
structure Delta where
  content : Option String
  toolCalls : List Fragment
deriving DecidableEq

/-- A choice of a chunk. -/
structure Choice where
  delta : Option Delta
  finishReason : Option String
deriving DecidableEq

/-- The `usage` of a chunk, when it has any field. -/
structure Usage where
  promptTokens : Option Int
  completionTokens : Option Int
deriving DecidableEq

/-- One event of a stream. -/
structure Chunk where
  id : Option String
  usage : Option Usage
  choices : List (Option Choice)
deriving DecidableEq

/-- `json.loads`, of the data of an event and of the arguments of a call. -/
structure Loads (α : Type) where
  chunk : String → Except Failure Chunk
  value : String → Except Failure α
  /-- The empty object. -/
  empty : α
  value_empty : value "\x7b\x7d" = .ok empty
  /-- A text is of the right type. -/
  value_typed : ∀ text raised, value text ≠ .error (.typeError raised)

/-- `value or ""` -/
def orBlank (value : Option String) : String := value.getD ""

/-- `value or {}` -/
def FunctionField.orEmpty (function : Option FunctionField) : FunctionField :=
  function.getD ⟨none, none⟩

/-! ## A whole response -/

variable (json : Loads α)

/-- The arguments of a call in a whole response. -/
def argumentsOf (field : Option ArgumentsField) : Except Failure α :=
  let parsed := match field with
    | none | some (.other false) | some (.text "") => json.value "\x7b\x7d"
    | some (.text text) => json.value text
    | some (.other true) => .error (.typeError "the JSON object must be str, bytes or bytearray")
  match parsed with
  | .error (.jsonDecodeError _) | .error (.typeError _) => .ok json.empty
  | parsed => parsed

/-- One turn of the loop over the raw calls. -/
def toolCallOf (raw : RawCall) : Except Failure (ToolCall α) := do
  let fn := FunctionField.orEmpty raw.function
  let arguments ← argumentsOf json fn.arguments
  return ⟨orBlank raw.id, orBlank fn.name, arguments⟩

/-- `_tool_response_of` -/
def toolResponseOf (body : Body) : Except Failure (ToolCallResponse α) :=
  match body.choices with
  | [] => .ok ⟨none, []⟩
  | choice :: _ => do
    let message := choice.getD ⟨none, []⟩
    let calls ← message.toolCalls.mapM (toolCallOf json)
    return ⟨message.content, calls⟩

/-! ## A stream -/

/-- What is kept of a call while its fragments arrive. -/
structure Slot where
  id : String
  name : String
  arguments : String
deriving DecidableEq

/-- `{"id": "", "name": "", "arguments": ""}` -/
def Slot.blank : Slot := ⟨"", "", ""⟩

/-- `value if value else old` -/
def orOld (value : Option String) (old : String) : String :=
  if orBlank value = "" then old else orBlank value

/-- A slot after a fragment of its index. -/
def Slot.add (slot : Slot) (tc : Fragment) : Except Failure Slot :=
  let fn := FunctionField.orEmpty tc.function
  let slot := { slot with id := orOld tc.id slot.id, name := orOld fn.name slot.name }
  match fn.arguments with
  | none | some (.other false) => .ok slot
  | some (.text text) => .ok { slot with arguments := slot.arguments ++ text }
  | some (.other true) => .error (.typeError "can only concatenate str to str")

/-- `tc.get("index", 0)` -/
def Fragment.key (tc : Fragment) : Int := tc.index.getD 0

/-- One turn of the loop over the fragments of a delta. -/
def accumulate (accumulating : Dict Int Slot) (tc : Fragment) : Except Failure (Dict Int Slot) := do
  let slot ← ((accumulating.get tc.key).getD .blank).add tc
  return accumulating.set tc.key slot

/-- The arguments of an accumulated call. -/
def Slot.parsed (slot : Slot) : Except Failure α :=
  match json.value (if slot.arguments = "" then "\x7b\x7d" else slot.arguments) with
  | .error (.jsonDecodeError _) => .ok json.empty
  | parsed => parsed

/-- The loop over the slots: the calls that are yielded, and what it raises. -/
def finish : List Slot → List (ToolCall α) × Option Failure
  | [] => ([], none)
  | slot :: rest =>
    if slot.name = "" then finish rest
    else
      match slot.parsed json with
      | .error failure => ([], some failure)
      | .ok arguments =>
        let (calls, raised) := finish rest
        (⟨slot.id, slot.name, arguments⟩ :: calls, raised)

/-- `UsageBreakdown` -/
structure UsageBreakdown where
  inputTokens : Int
  outputTokens : Int
deriving DecidableEq

/-- `_usage_from_body` -/
def usageFromBody (usage : Usage) : UsageBreakdown :=
  ⟨usage.promptTokens.getD 0, usage.completionTokens.getD 0⟩

/-- The variables of the loop over the lines, and what was yielded so far. -/
structure Reading (α : Type) where
  yielded : List (StreamDelta α)
  accumulating : Dict Int Slot
  usage : Option UsageBreakdown
  requestId : Option String
deriving DecidableEq

namespace Reading

/-- The variables before the first line. -/
def start : Reading α := ⟨[], .empty, none, none⟩

/-- `yield` of a text. -/
def yieldText (r : Reading α) (content : Option String) : Reading α :=
  if orBlank content = "" then r
  else { r with yielded := r.yielded ++ [⟨content, none⟩] }

/-- `yield` of calls. -/
def yieldCalls (r : Reading α) (calls : List (ToolCall α)) : Reading α :=
  { r with yielded := r.yielded ++ calls.map fun call => ⟨none, some call⟩ }

/-- The request id and the usage of a chunk are kept. -/
def note (r : Reading α) (chunk : Chunk) : Reading α :=
  { r with
    requestId := if orBlank chunk.id = "" then r.requestId else chunk.id
    usage := chunk.usage.elim r.usage fun usage => some (usageFromBody usage) }

end Reading

/-- One turn of the loop over the lines, for the data of an event. -/
def readChunk (r : Reading α) (chunk : Chunk) : Reading α × Option Failure :=
  let r := r.note chunk
  match chunk.choices with
  | [] => (r, none)
  | choice :: _ =>
    let choice := choice.getD ⟨none, none⟩
    let delta := choice.delta.getD ⟨none, []⟩
    let r := r.yieldText delta.content
    match delta.toolCalls.foldlM accumulate r.accumulating with
    | .error failure => (r, some failure)
    | .ok accumulating =>
      let r := { r with accumulating }
      if orBlank choice.finishReason = "" then (r, none)
      else
        let (calls, raised) := finish json accumulating.values
        match raised with
        | some failure => (r.yieldCalls calls, some failure)
        | none => ({ r.yieldCalls calls with accumulating := .empty }, none)

/-- The data of a line; nothing for a line the loop passes over. -/
def dataOf (line : String) : Option String :=
  if "data:".toList.isPrefixOf line.toList then
    let data := strip (String.ofList (line.toList.drop "data:".toList.length))
    if data = "" ∨ data = "[DONE]" then none else some data
  else none

/-- The loop over the lines. -/
def readLines : List String → Reading α → Reading α × Option Failure
  | [], r => (r, none)
  | line :: rest, r =>
    match dataOf line with
    | none => readLines rest r
    | some data =>
      match json.chunk data with
      | .error failure => (r, some failure)
      | .ok chunk =>
        match readChunk json r chunk with
        | (r, some failure) => (r, some failure)
        | (r, none) => readLines rest r

/-- The answer to a streaming request: its lines, and what ends it before its last line if
anything does (a status that is no success, a lost connection). -/
structure Answer where
  lines : List String
  failure : Option String
deriving DecidableEq

/-- What is recorded of a call to the provider, by its status. -/
inductive UsageEvent where
  | success (usage : Option UsageBreakdown) (requestId : Option String)
  | error (text : String)
deriving DecidableEq

/-- A finished stream: what it yielded, the `ServiceUnavailableError` it raised if it did, and what
was recorded. -/
structure Streamed (α : Type) where
  yielded : List (StreamDelta α)
  raised : Option String
  recorded : Option UsageEvent
deriving DecidableEq

/-- The lines of an answer are read, and then what ends it is raised. -/
def readAnswer (answer : Answer) : Reading α × Option Failure :=
  match readLines json answer.lines .start with
  | (r, some failure) => (r, some failure)
  | (r, none) => (r, answer.failure.map Failure.other)

/-- `stream_with_tools`; `isConfigured` and `model` are what the settings and the routes hold. -/
def streamWithTools (isConfigured : Bool) (model : Option String) (answer : Answer) : Streamed α :=
  if !isConfigured then ⟨[], some "AI provider is not configured.", none⟩
  else if orBlank model = "" then
    ⟨[], some ("No AI model is configured for this yet — an admin needs to set one " ++
      "under AI Routing settings."), none⟩
  else
    match readAnswer json answer with
    | (r, some failure) =>
      ⟨r.yielded, some ("AI provider request failed: " ++ failure.text),
        some (.error (String.ofList (failure.text.toList.take 500)))⟩
    | (r, none) => ⟨r.yielded, none, some (.success r.usage r.requestId)⟩

end MarketingOS.OpenRouter
