import MarketingOS.Base.Redaction
import MarketingOS.Core.Text

/-!
# The audit middleware

The diff an audit row falls back to when no service provided one: the submitted JSON object, with
the values of secret-bearing fields replaced. The body of the object is buffered first, and replayed
for the application.
-/
namespace MarketingOS

/-- An ASGI message of `receive`, as far as it is read. -/
structure ReceiveMessage where
  type : String
  body : Option (List UInt8)
  moreBody : Option Bool
deriving DecidableEq

/-- The value of one field before and after a write, as the body gives it. -/
structure BodyChange (Number : Type) where
  before : JsonTree Number
  after : JsonTree Number

/-- A request body: its length in bytes, and the document `json.loads` reads, if any. -/
structure RequestBody (Number : Type) where
  size : Nat
  document : Option (JsonTree Number)

namespace AuditMiddleware

variable {Number : Type}

/-- `_MAX_REQUEST_PEEK` -/
def maxRequestPeek : Nat := 64000

/-- `_REDACT_KEYS` -/
def redactKeys : List String :=
  ["password", "current_password", "new_password", "old_password", "token", "access_token",
    "refresh_token", "secret", "client_secret", "code", "authorization", "api_key", "apikey"]

/-- `key.lower() in _REDACT_KEYS` -/
def isRedacted (tables : TextTables) (key : String) : Bool := redactKeys.contains (tables.lower key)

/-- `created_changes` of a decoded object — each field goes from None to its value, unless that is
None. -/
def createdChanges (fields : List (String × JsonTree Number)) :
    Option (List (String × BodyChange Number)) :=
  let changed := fields.filterMap fun field =>
    if field.2.isNull then none else some (field.1, BodyChange.mk .null field.2)
  if changed.isEmpty then none else some changed

/-- The fields of a submitted object with the secret-bearing ones replaced. -/
def safe (tables : TextTables) (fields : List (String × JsonTree Number)) :
    List (String × JsonTree Number) :=
  fields.map fun field =>
    (field.1, if isRedacted tables field.1 then .str "***redacted***" else field.2)

/-- `_changes_from_body` -/
def changesFromBody (tables : TextTables) (body : RequestBody Number) :
    Option (List (String × BodyChange Number)) :=
  if body.size = 0 ∨ maxRequestPeek < body.size then none
  else match body.document with
    | some (.obj []) => none
    | some (.obj fields) => createdChanges (safe tables fields)
    | _ => none

/-- The `changes` of an audit row: the diff a service provided, or the fallback of a successful
write. -/
def recordedChanges (tables : TextTables) (provided : Option (List (String × BodyChange Number)))
    (statusCode : Nat) (body : RequestBody Number) : Option (List (String × BodyChange Number)) :=
  match provided with
  | some changes => some changes
  | none =>
    if body.size ≠ 0 ∧ 200 ≤ statusCode ∧ statusCode < 300 then changesFromBody tables body else none

/-! ## The request body -/

/-- `message.get("body", b"")` -/
def chunk (message : ReceiveMessage) : List UInt8 := message.body.getD []

/-- What the replaying `receive` closes over: the buffered messages, the index of the next one, and
what the original `receive` has not returned. -/
structure Replay where
  messages : List ReceiveMessage
  index : Nat
  source : List ReceiveMessage

/-- `replay` — waits when the original `receive` does. -/
def Replay.receive (r : Replay) : Option (ReceiveMessage × Replay) :=
  match r.messages[r.index]? with
  | some message => some (message, { r with index := r.index + 1 })
  | none =>
    match r.source with
    | [] => none
    | message :: rest => some (message, { r with source := rest })

/-- The loop of `_buffer_request_body`, with the messages and the chunks so far. -/
def bufferLoop (cap : Nat) (messages : List ReceiveMessage) (body : List UInt8) :
    List ReceiveMessage → Option (List UInt8 × Replay)
  | [] => none
  | message :: source =>
    if message.type ≠ "http.request" then some (body, ⟨messages ++ [message], 0, source⟩)
    else if message.moreBody.getD false = false ∨ cap < (body ++ chunk message).length then
      some (body ++ chunk message, ⟨messages ++ [message], 0, source⟩)
    else bufferLoop cap (messages ++ [message]) (body ++ chunk message) source

/-- `_buffer_request_body` — waits when the messages end before it is done. -/
def bufferRequestBody (cap : Nat) (source : List ReceiveMessage) :
    Option (List UInt8 × Replay) := bufferLoop cap [] [] source

/-- `_WRITE_METHODS` -/
def writeMethods : List String := ["POST", "PUT", "PATCH"]

/-- The body and the `receive` an audited request goes on with; `json` tells whether its content
type names JSON. -/
def appReceive (method : String) (json : Bool) (source : List ReceiveMessage) :
    Option (List UInt8 × Replay) :=
  if method ∈ writeMethods ∧ json then bufferRequestBody maxRequestPeek source
  else some ([], ⟨[], 0, source⟩)

end AuditMiddleware

end MarketingOS
