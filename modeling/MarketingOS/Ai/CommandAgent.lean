import MarketingOS.Ai.Handlers
import MarketingOS.Services.Proposal.Execution

/-!
# Chat turns

One turn of the assistant: rounds of the model and its tools, answered at once or as a stream of
events. What the model answers and what a tool does are parameters; `σ` is what the tools work on.
-/
namespace MarketingOS.CommandAgent

/-- The arguments of a tool call. -/
abbrev Arguments : Type := List (String × Json)

/-- `ToolCall` -/
structure Call where
  id : String
  name : String
  arguments : Arguments
deriving DecidableEq

/-- `ToolCallResponse` -/
structure Response where
  content : Option String
  toolCalls : List Call
deriving DecidableEq

/-- `StreamDelta` -/
structure StreamDelta where
  text : Option String
  toolCall : Option Call
deriving DecidableEq

/-- What code outside the agent may raise. -/
inductive Raised where
  | app (error : AppError)
  /-- A `TypeError` or a `ValueError`, with its text. -/
  | argument (text : String)
  /-- Any other exception, or a result that is no JSON. -/
  | other (text : String)
deriving DecidableEq

/-! ## The registry -/

/-- `ToolKind` -/
inductive ToolKind where
  | read
  | write
  | clarify
deriving DecidableEq

/-- `ToolSpec`, without what only the model reads. -/
structure ToolSpec where
  name : String
  kind : ToolKind
  progressLabel : String
deriving DecidableEq

/-- `REQUEST_CLARIFICATION` -/
def requestClarification : String := "request_clarification"

/-- `_TOOLS` -/
def registry : List ToolSpec :=
  [⟨"search_plan_tasks", .read, "Searching plan tasks"⟩,
    ⟨"get_plan_task", .read, "Looking up the task"⟩,
    ⟨"search_users", .read, "Searching users"⟩,
    ⟨"search_knowledge_base", .read, "Searching client knowledge"⟩,
    ⟨"get_performance_summary", .read, "Checking performance data"⟩,
    ⟨"get_client", .read, "Reading client settings"⟩,
    ⟨"get_editable_schema", .read, "Checking valid field values"⟩,
    ⟨"propose_create_plan_task", .write, "Drafting a new task"⟩,
    ⟨"propose_update_plan_task", .write, "Drafting task changes"⟩,
    ⟨"propose_assign_user_to_plan_task", .write, "Drafting the assignment"⟩,
    ⟨"propose_unassign_plan_task", .write, "Drafting the removal"⟩,
    ⟨"propose_archive_plan_task", .write, "Drafting the archive"⟩,
    ⟨"propose_delete_plan_task", .write, "Drafting the delete"⟩,
    ⟨"propose_duplicate_plan_task", .write, "Drafting a duplicate"⟩,
    ⟨"propose_add_plan_task_note", .write, "Drafting the note"⟩,
    ⟨"propose_bulk_update_plan_tasks", .write, "Drafting bulk changes"⟩,
    ⟨"propose_bulk_delete_plan_tasks", .write, "Drafting the bulk delete"⟩,
    ⟨"propose_update_client", .write, "Drafting client changes"⟩,
    ⟨"propose_update_brand", .write, "Drafting brand changes"⟩,
    ⟨requestClarification, .clarify, ""⟩]

/-- `TOOLS.get(name)` -/
def getTool (name : String) : Option ToolSpec :=
  registry.find? fun spec => decide (spec.name = name)

/-- `progress_label_for` -/
def progressLabelFor (name : String) : String :=
  match getTool name with
  | none => "Working"
  | some spec => if spec.progressLabel = "" then "Working" else spec.progressLabel

/-- The names in `openai_tool_definitions`. -/
def openaiToolDefinitions (includeWrite : Bool) : List String :=
  (registry.filter fun spec => includeWrite || decide (spec.kind ≠ .write)).map ToolSpec.name

/-! ## Messages and events -/

/-- One message to the model. -/
inductive Message where
  | text (role content : String)
  | assistant (content : Option String) (toolCalls : List Call)
  | tool (callId : String) (payload : Arguments)
deriving DecidableEq

/-- What the model is sent in one round. -/
structure Request where
  messages : List Message
  tools : List String
deriving DecidableEq

/-- `CommandTurnResult` -/
structure TurnResult where
  reply : String
  operations : List StagedOperation
deriving DecidableEq

/-- `CommandStreamEvent` -/
inductive StreamEvent where
  | delta (text : String)
  | toolProgress (toolName : String)
  | result (result : TurnResult)
deriving DecidableEq

/-- What a write tool returns. -/
inductive Draft where
  | operation (op : StagedOperation)
  | batch (batch : StagedBatch)
deriving DecidableEq

/-- What `_dispatch` returns. -/
inductive Dispatched where
  | payload (fields : Arguments)
  | draft (draft : Draft)
deriving DecidableEq

/-- The handlers, each by its tool's name: those of read tools return fields, those of write tools
drafts. -/
structure Tools (σ : Type) where
  read : String → Arguments → σ → Except Raised Arguments × σ
  write : String → Arguments → σ → Except Raised Draft × σ

/-- What a turn reads besides the model. -/
structure Agent (σ : Type) where
  role : UserRole
  isConfigured : Bool
  /-- `load_prompt("command_agent/system.txt")` -/
  template : String
  clientName : Option String
  today : String
  /-- `str(value)` of a value that is no text. -/
  str : Json → String
  tools : Tools σ

/-- A turn under way. -/
structure Chat (σ : Type) where
  db : σ
  messages : List Message
  staged : List StagedOperation
  /-- The rounds the model was asked for, in order. -/
  requests : List Request

/-! ## Texts -/

/-- `_MAX_ROUNDS` -/
def maxRounds : Nat := 6

/-- `_MAX_HISTORY_MESSAGES` -/
def maxHistoryMessages : Nat := 20

/-- `_NOT_CONFIGURED_REPLY` -/
def notConfiguredReply : String :=
  "The AI command assistant isn't configured yet — ask an administrator " ++
    "to set up the AI provider before natural-language commands will work."

/-- `_PROVIDER_ERROR_REPLY` -/
def providerErrorReply : String :=
  "Sorry, I couldn't reach the AI provider just now — please try again."

/-- `_ROUND_CAP_REPLY` -/
def roundCapReply : String :=
  "I wasn't able to finish working through that in one go — could you narrow down " ++
    "the request a little?"

/-- `_READ_ONLY_SYSTEM_NOTICE` -/
def readOnlySystemNotice : String :=
  "IMPORTANT: this user's account has READ-ONLY access on this client. They can chat, " ++
    "ask questions, and see any information you can look up, but they cannot create, " ++
    "update, delete, assign, approve, or reject anything — there are no such tools " ++
    "available in this conversation at all. If they ask you to make any change, do not " ++
    "attempt it or search for a way around it — just clearly and politely explain that " ++
    "their account has read-only access and that an admin or manager on this client " ++
    "needs to make that change, then offer to help with anything read-only instead."

/-- `_READ_ONLY_TOOL_ERROR` -/
def readOnlyToolError : Arguments :=
  [("error", .str ("This account has read-only access and cannot make this change. " ++
    "An admin or manager on this client needs to do this instead."))]

/-- `render` -/
def render (template : String) (values : List (String × String)) : String :=
  values.foldl (fun result value => result.replace ("\x7b" ++ value.1 ++ "\x7d") value.2) template

/-- `_staged_tool_result` -/
def stagedToolResult (op : StagedOperation) : Arguments :=
  let label := if op.entityLabel.getD "" = "" then op.entityType else op.entityLabel.getD ""
  [("staged", .bool true),
    ("summary", .str ("Drafted: " ++ label ++ " (pending human approval, not yet applied)"))]

/-- One entry of `batch.skipped`. -/
def skippedEntry (skipped : Uuid × String) : Json :=
  .obj [("task_id", .str (Uuid.print skipped.1)), ("reason", .str skipped.2)]

/-- `_staged_batch_tool_result` -/
def stagedBatchToolResult (batch : StagedBatch) : Arguments :=
  [("staged", .bool true),
    ("summary", .str ("Drafted " ++ toString batch.operations.length ++
      " change(s) across the matched items " ++
      "(pending human approval, not yet applied — all in the same proposal).")),
    ("staged_count", .int batch.operations.length)] ++
  if batch.skipped.isEmpty then []
  else [("skipped", .arr (batch.skipped.map skippedEntry)),
    ("skipped_count", .int batch.skipped.length)]

/-! ## The agent -/

variable {σ : Type} (agent : Agent σ)

/-- `_is_read_only` -/
def isReadOnly : Bool := decide (agent.role = .user)

/-- `_build_messages` -/
def buildMessages (content : String) (history : List (String × String)) : List Message :=
  let system := render agent.template
    [("client_name", agent.clientName.getD "this client"), ("today", agent.today),
      ("read_only_notice", if isReadOnly agent then readOnlySystemNotice else "")]
  .text "system" system ::
    (history.drop (history.length - maxHistoryMessages)).map (fun entry => .text entry.1 entry.2) ++
    [.text "user" content]

/-- What an exception of a handler becomes: a result for the model, or an exception of the turn. -/
def caught (name : String) : Raised → Except Raised Dispatched
  | .app error => .ok (.payload [("error", .str error.message)])
  | .argument text =>
    .ok (.payload [("error", .str ("Invalid arguments for " ++ name ++ ": " ++ text))])
  | .other text => .error (.other text)

/-- `_dispatch` -/
def dispatch (name : String) (arguments : Arguments) (db : σ) : Except Raised Dispatched × σ :=
  match getTool name with
  | none => (.ok (.payload [("error", .str ("Unknown tool '" ++ name ++ "'."))]), db)
  | some spec =>
    match spec.kind with
    | .clarify => (.ok (.payload [("error", .str ("Unknown tool '" ++ name ++ "'."))]), db)
    | .write =>
      if isReadOnly agent then (.ok (.payload readOnlyToolError), db)
      else
        match agent.tools.write name arguments db with
        | (.ok draft, db) => (.ok (.draft draft), db)
        | (.error exc, db) => (caught name exc, db)
    | .read =>
      match agent.tools.read name arguments db with
      | (.ok fields, db) => (.ok (.payload fields), db)
      | (.error exc, db) => (caught name exc, db)

/-- `str(arguments.get("question") or "Could you clarify that?")` -/
def question (arguments : Arguments) : String :=
  match arguments.lookup "question" with
  | some (.str text) => if text = "" then "Could you clarify that?" else text
  | some value => if Payload.truthy value then agent.str value else "Could you clarify that?"
  | none => "Could you clarify that?"

namespace Chat

/-- The next round is asked for. -/
def asked (chat : Chat σ) (tools : List String) : Chat σ :=
  { chat with requests := chat.requests ++ [⟨chat.messages, tools⟩] }

/-- A message is added. -/
def say (chat : Chat σ) (message : Message) : Chat σ :=
  { chat with messages := chat.messages ++ [message] }

/-- The result of a call is kept and told to the model. -/
def take (chat : Chat σ) (call : Call) : Dispatched → Chat σ
  | .draft (.batch batch) =>
    { chat with staged := chat.staged ++ batch.operations }.say
      (.tool call.id (stagedBatchToolResult batch))
  | .draft (.operation op) =>
    { chat with staged := chat.staged ++ [op] }.say (.tool call.id (stagedToolResult op))
  | .payload fields => chat.say (.tool call.id fields)

end Chat

/-! ## A turn at once -/

/-- The loop over the calls of a round, with the clarification asked for so far. -/
def answerCalls : List Call → Chat σ → Option String → Chat σ × Except Raised (Option String)
  | [], chat, clarification => (chat, .ok clarification)
  | call :: rest, chat, clarification =>
    if call.name = requestClarification then
      answerCalls rest (chat.say (.tool call.id [("acknowledged", .bool true)]))
        (some (question agent call.arguments))
    else
      match dispatch agent call.name call.arguments chat.db with
      | (.error exc, db) => ({ chat with db }, .error exc)
      | (.ok result, db) => answerCalls rest ({ chat with db }.take call result) clarification

/-- The loop over the rounds; `script` is what `complete_with_tools` does in each. -/
def rounds (script : Nat → Except Raised Response) :
    (left round : Nat) → Chat σ → Chat σ × Except Raised TurnResult
  | 0, _, chat => (chat, .ok ⟨roundCapReply, chat.staged⟩)
  | left + 1, round, chat =>
    let chat := chat.asked (openaiToolDefinitions (!isReadOnly agent))
    match script round with
    | .error (.app _) => (chat, .ok ⟨providerErrorReply, chat.staged⟩)
    | .error exc => (chat, .error exc)
    | .ok response =>
      if response.toolCalls.isEmpty then
        (chat, .ok ⟨response.content.getD "", chat.staged⟩)
      else
        match answerCalls agent response.toolCalls
            (chat.say (.assistant response.content response.toolCalls)) none with
        | (chat, .error exc) => (chat, .error exc)
        | (chat, .ok (some asked)) => (chat, .ok ⟨asked, []⟩)
        | (chat, .ok none) => rounds script left (round + 1) chat

/-- The state of a turn before its first round. -/
def opened (db : σ) (content : String) (history : List (String × String)) : Chat σ :=
  ⟨db, buildMessages agent content history, [], []⟩

/-- `run_turn` -/
def runTurn (script : Nat → Except Raised Response) (db : σ) (content : String)
    (history : List (String × String)) : Chat σ × Except Raised TurnResult :=
  if agent.isConfigured = false then (⟨db, [], [], []⟩, .ok ⟨notConfiguredReply, []⟩)
  else rounds agent script maxRounds 0 (opened agent db content history)

/-! ## A streamed turn -/

/-- What `stream_with_tools` does in a round: its deltas, and the exception it ends with. -/
structure Streaming where
  deltas : List StreamDelta
  raised : Option Raised
deriving DecidableEq

/-- The events of a stream that ends, and the exception it ends with. -/
structure Streamed (σ : Type) where
  events : List StreamEvent
  chat : Chat σ
  raised : Option Raised

/-- Events before those of a stream. -/
def Streamed.after (events : List StreamEvent) (rest : Streamed σ) : Streamed σ :=
  { rest with events := events ++ rest.events }

/-- The text of a delta that has some. -/
def StreamDelta.shown (delta : StreamDelta) : Option String := delta.text.filter (· ≠ "")

/-- The loop over the deltas: the events, the text parts and the calls. -/
def listen : List StreamDelta → List StreamEvent × List String × List Call
  | [] => ([], [], [])
  | delta :: rest =>
    let (events, parts, calls) := listen rest
    (delta.shown.toList.map .delta ++ events, delta.shown.toList ++ parts,
      delta.toolCall.toList ++ calls)

/-- `"".join(parts) or None` -/
def joined (parts : List String) : Option String :=
  if String.join parts = "" then none else some (String.join parts)

/-- The loop over the calls of a round of a streamed turn. -/
def streamCalls : List Call → Chat σ → Option String →
    List StreamEvent × Chat σ × Except Raised (Option String)
  | [], chat, clarification => ([], chat, .ok clarification)
  | call :: rest, chat, clarification =>
    if call.name = requestClarification then
      streamCalls rest (chat.say (.tool call.id [("acknowledged", .bool true)]))
        (some (question agent call.arguments))
    else
      let progress := StreamEvent.toolProgress (progressLabelFor call.name)
      match dispatch agent call.name call.arguments chat.db with
      | (.error exc, db) => ([progress], { chat with db }, .error exc)
      | (.ok result, db) =>
        let (events, chat, done) :=
          streamCalls rest ({ chat with db }.take call result) clarification
        (progress :: events, chat, done)

/-- The loop over the rounds of a streamed turn. -/
def streamRounds (script : Nat → Streaming) : (left round : Nat) → Chat σ → Streamed σ
  | 0, _, chat => ⟨[.result ⟨roundCapReply, chat.staged⟩], chat, none⟩
  | left + 1, round, chat =>
    let chat := chat.asked (openaiToolDefinitions (!isReadOnly agent))
    let (heard, parts, calls) := listen (script round).deltas
    match (script round).raised with
    | some (.app _) => ⟨heard ++ [.result ⟨providerErrorReply, chat.staged⟩], chat, none⟩
    | some exc => ⟨heard, chat, some exc⟩
    | none =>
      if calls.isEmpty then
        ⟨heard ++ [.result ⟨(joined parts).getD "", chat.staged⟩], chat, none⟩
      else
        match streamCalls agent calls (chat.say (.assistant (joined parts) calls)) none with
        | (events, chat, .error exc) => ⟨heard ++ events, chat, some exc⟩
        | (events, chat, .ok (some asked)) =>
          ⟨heard ++ events ++ [.result ⟨asked, []⟩], chat, none⟩
        | (events, chat, .ok none) =>
          (streamRounds script left (round + 1) chat).after (heard ++ events)

/-- `run_turn_stream` -/
def runTurnStream (script : Nat → Streaming) (db : σ) (content : String)
    (history : List (String × String)) : Streamed σ :=
  if agent.isConfigured = false then
    ⟨[.result ⟨notConfiguredReply, []⟩], ⟨db, [], [], []⟩, none⟩
  else streamRounds agent script maxRounds 0 (opened agent db content history)

end MarketingOS.CommandAgent
