import MarketingOS.Verif.Approval
import MarketingOS.Verif.ToolEscapes

/-! # Malformed calls

A call of the model crashes the turn exactly when its tool is open to the user, its arguments are
the parameters of the tool, and it fails on one of them. Any other call returns a result, and the
turn goes on with everything that was staged before. -/
namespace MarketingOS.ToolHandlers

open CommandAgent (Raised Draft)

/-! ## The dispatcher -/

section Dispatcher

open CommandAgent (Agent Arguments Call Chat Dispatched Response ToolKind ToolSpec TurnResult
  answerCalls caught dispatch getTool isReadOnly registry requestClarification rounds runTurn)

variable {ν : Type} (backend : Backend ν)

/-- What a call fails on, once its arguments are the parameters of its tool. -/
def CallFails (context : Context) (arguments : RawArguments ν) (name : String) : Prop :=
  let reading := backend.reading
  match name with
  | "search_plan_tasks" => SearchFails reading arguments
  | "get_plan_task" => NoIdentifier (argument arguments "task_id")
  | "search_users" => GivenNoText reading (argument arguments "query")
  | "search_knowledge_base" => KnowledgeFails reading arguments backend.knowledge
  | "propose_create_plan_task" => CreateFails reading context arguments
  | "propose_update_plan_task" => UpdateFails reading arguments
  | "propose_assign_user_to_plan_task" => AssignFails reading arguments
  | "propose_unassign_plan_task" => NoIdentifier (argument arguments "task_id")
  | "propose_archive_plan_task" => NoIdentifier (argument arguments "task_id")
  | "propose_delete_plan_task" => NoIdentifier (argument arguments "task_id")
  | "propose_duplicate_plan_task" => NoIdentifier (argument arguments "task_id")
  | "propose_add_plan_task_note" => NoIdentifier (argument arguments "task_id")
  | "propose_bulk_update_plan_tasks" =>
    ChangesGiven reading arguments ∧ ScopeFails reading arguments
  | "propose_bulk_delete_plan_tasks" => ScopeFails reading arguments
  | "propose_update_brand" => ColorsFail reading arguments
  | _ => False

/-- The handler of a registered read tool escapes when its call fails. -/
theorem escapes_readTool {session : Session} (valid : session.db.tables.Consistent)
    (arguments : RawArguments ν) : ∀ spec ∈ registry, spec.kind = .read →
    (Escapes (backend.readTool session spec.name arguments) ↔ Accepted spec.name arguments ∧
      CallFails backend (backend.context session) arguments spec.name) := by
  have calm {result : Except Raised (Reply ν)} {name : String} (not : ¬Escapes result) :
      Escapes result ↔ Accepted name arguments ∧ False := by
    rw [and_false]
    exact iff_false_intro not
  simp only [registry, List.forall_mem_cons, reduceCtorEq, false_implies, true_implies]
  refine ⟨?_, ?_, ?_, ?_, ?_, ?_, ?_, ?_⟩
  · exact escapes_searchPlanTasks valid
  · exact escapes_getPlanTask
  · exact escapes_searchUsers
  · exact escapes_searchKnowledgeBase
  · exact calm (not_escapes_getPerformanceSummary _)
  · exact calm not_escapes_getClient
  · exact calm not_escapes_getEditableSchema
  · simp

/-- The handler of a registered write tool escapes when its call fails. -/
theorem escapes_writeTool {session : Session} (standing : Standing (backend.context session))
    (arguments : RawArguments ν) : ∀ spec ∈ registry, spec.kind = .write →
    (Escapes (backend.writeTool session spec.name arguments) ↔ Accepted spec.name arguments ∧
      CallFails backend (backend.context session) arguments spec.name) := by
  have calm {result : Except Raised Draft} {name : String} (not : ¬Escapes result) :
      Escapes result ↔ Accepted name arguments ∧ False := by
    rw [and_false]
    exact iff_false_intro not
  simp only [registry, List.forall_mem_cons, reduceCtorEq, false_implies, true_implies, true_and]
  refine ⟨?_, ?_, ?_, ?_, ?_, ?_, ?_, ?_, ?_, ?_, ?_, ?_, ?_⟩
  · exact escapes_create standing
  · exact escapes_update
  · exact escapes_assign
  · exact escapes_unassign
  · exact escapes_archive
  · exact escapes_delete standing.valid
  · exact escapes_duplicate standing
  · exact escapes_addNote standing
  · exact escapes_bulkUpdate standing.valid
  · exact escapes_bulkDelete standing.valid
  · exact calm not_escapes_updateClient
  · exact escapes_updateBrand
  · simp

/-- An agent with the handlers of a backend. -/
def Backend.agent (agent : Agent Session) : Agent Session := { agent with tools := backend.tools }

/-- A call crashes a turn: its tool is open to the role of the user, its arguments are the
parameters of the tool, and it fails. -/
def Crashes (role : UserRole) (session : Session) (name : String) (arguments : Arguments) : Prop :=
  ∃ spec, getTool name = some spec ∧ spec.kind ≠ .clarify ∧ (spec.kind = .write → role ≠ .user) ∧
    Accepted name (backend.arguments arguments) ∧
    CallFails backend (backend.context session) (backend.arguments arguments) name

/-- What an exception of a handler becomes is a result unless it escapes. -/
theorem caught_returns_iff {α : Type} {name : String} {exc : Raised} :
    (∃ result, caught name exc = .ok result) ↔ ¬Escapes (.error exc : Except Raised α) := by
  cases exc with
  | app error => simp [caught, Escapes]
  | argument text => simp [caught, Escapes]
  | other text => simp [caught, Escapes]

/-- A registered tool is in the registry under its name. -/
theorem mem_of_getTool {name : String} {spec : ToolSpec} (found : getTool name = some spec) :
    spec ∈ registry ∧ spec.name = name :=
  ⟨List.mem_of_find?_eq_some found,
    of_decide_eq_true (@List.find?_some _ (fun spec : ToolSpec => decide (spec.name = name)) _ _
      found)⟩

/-- The dispatcher returns for a write tool unless its handler escapes. -/
theorem dispatch_write_iff {session : Session} {agent : Agent Session} {name : String}
    {spec : ToolSpec} (found : getTool name = some spec) (kind : spec.kind = .write)
    (writes : agent.role ≠ .user) (arguments : Arguments) :
    (∃ result, (dispatch (backend.agent agent) name arguments session).1 = .ok result) ↔
      ¬Escapes (backend.writeTool session name (backend.arguments arguments)) := by
  have allowed : isReadOnly (backend.agent agent) = false := decide_eq_false writes
  simp only [dispatch, found, kind, allowed, Bool.false_eq_true, ↓reduceIte]
  cases ran : (backend.agent agent).tools.write name arguments session with
  | mk outcome db =>
    have handler : backend.writeTool session name (backend.arguments arguments) = outcome :=
      congrArg Prod.fst ran
    rw [handler]
    cases outcome with
    | error exc => exact caught_returns_iff
    | ok draft => simp

/-- The dispatcher returns for a read tool unless its handler escapes. -/
theorem dispatch_read_iff {session : Session} {agent : Agent Session} {name : String}
    {spec : ToolSpec} (found : getTool name = some spec) (kind : spec.kind = .read)
    (arguments : Arguments) :
    (∃ result, (dispatch (backend.agent agent) name arguments session).1 = .ok result) ↔
      ¬Escapes (backend.readTool session name (backend.arguments arguments)) := by
  simp only [dispatch, found, kind]
  cases ran : (backend.agent agent).tools.read name arguments session with
  | mk outcome db =>
    have handler : (backend.readTool session name (backend.arguments arguments)).map
        backend.fields = outcome := congrArg Prod.fst ran
    rw [← @escapes_map _ _ backend.fields, handler]
    cases outcome with
    | error exc => exact caught_returns_iff
    | ok fields => simp

/-- The dispatcher returns a result exactly for the calls that do not crash. -/
theorem dispatch_returns_iff {session : Session} (standing : Standing (backend.context session))
    (agent : Agent Session) (name : String) (arguments : Arguments) :
    (∃ result, (dispatch (backend.agent agent) name arguments session).1 = .ok result) ↔
      ¬Crashes backend agent.role session name arguments := by
  cases found : getTool name with
  | none => simp [dispatch, Crashes, found]
  | some spec =>
    obtain ⟨member, rfl⟩ := mem_of_getTool found
    cases kind : spec.kind with
    | clarify => simp [dispatch, Crashes, found, kind]
    | write =>
      by_cases readOnly : agent.role = .user
      · have refused : isReadOnly (backend.agent agent) = true := decide_eq_true readOnly
        simp [dispatch, Crashes, found, kind, refused, readOnly]
      · rw [dispatch_write_iff backend found kind readOnly,
          escapes_writeTool backend standing _ spec member kind]
        simp [Crashes, found, kind, readOnly]
    | read =>
      rw [dispatch_read_iff backend found kind,
        escapes_readTool backend standing.valid _ spec member kind]
      simp [Crashes, found, kind]

/-! ## Turns -/

/-- A call changes the identifiers that are drawn and nothing else. -/
theorem dispatch_db (agent : Agent Session) (name : String) (arguments : Arguments)
    (session : Session) :
    (dispatch (backend.agent agent) name arguments session).2.db = session.db := by
  unfold dispatch
  split
  · rfl
  · split
    · rfl
    · split
      · rfl
      · cases ran : (backend.agent agent).tools.write name arguments session with
        | mk outcome db =>
          obtain rfl := congrArg Prod.snd ran
          cases outcome <;> rfl
    · cases ran : (backend.agent agent).tools.read name arguments session with
      | mk outcome db =>
        obtain rfl := congrArg Prod.snd ran
        cases outcome <;> rfl

/-- Taking a result keeps the session. -/
theorem db_take {σ : Type} (chat : Chat σ) (call : Call) (result : Dispatched) :
    (chat.take call result).db = chat.db := by
  cases result with
  | payload fields => rfl
  | draft draft => cases draft <;> rfl

/-- Taking a result keeps what was staged. -/
theorem staged_take {σ : Type} (chat : Chat σ) (call : Call) (result : Dispatched) :
    chat.staged <+: (chat.take call result).staged := by
  cases result with
  | payload fields => exact List.prefix_rfl
  | draft draft =>
    cases draft with
    | batch batch => exact List.prefix_append _ _
    | operation op => exact List.prefix_append _ _

/-- What a part of a turn leaves: the database, what was staged, and an exception only of a call
that crashes. -/
structure Leaves (role : UserRole) (calls : List Call) (before after : Chat Session)
    {α : Type} (result : Except Raised α) : Prop where
  db : after.db.db = before.db.db
  staged : before.staged <+: after.staged
  raised : ∀ exc, result = .error exc → ∃ call ∈ calls, ∃ drawn,
    Crashes backend role ⟨before.db.db, drawn⟩ call.name call.arguments

/-- The calls of a round raise an exception only of a call that crashes. -/
theorem leaves_answerCalls (agent : Agent Session) (calls : List Call) (chat : Chat Session)
    (standing : ∀ drawn, Standing (backend.context ⟨chat.db.db, drawn⟩))
    (clarification : Option String) :
    Leaves backend agent.role calls chat
      (answerCalls (backend.agent agent) calls chat clarification).1
      (answerCalls (backend.agent agent) calls chat clarification).2 := by
  induction calls generalizing chat clarification with
  | nil => exact ⟨rfl, List.prefix_rfl, fun exc raised => by cases raised⟩
  | cons call rest ih =>
    have later {next : Chat Session} {clarification : Option String}
        (same : next.db.db = chat.db.db) (grown : chat.staged <+: next.staged) :
        Leaves backend agent.role (call :: rest) chat
          (answerCalls (backend.agent agent) rest next clarification).1
          (answerCalls (backend.agent agent) rest next clarification).2 := by
      have rest := ih next (by rwa [same]) clarification
      refine ⟨rest.db.trans same, grown.trans rest.staged, fun exc raised => ?_⟩
      obtain ⟨other, inside, drawn, crashes⟩ := rest.raised exc raised
      exact ⟨other, List.mem_cons_of_mem _ inside, drawn, same ▸ crashes⟩
    simp only [answerCalls]
    split
    · exact later rfl List.prefix_rfl
    · cases ran : dispatch (backend.agent agent) call.name call.arguments chat.db with
      | mk outcome db =>
        have same : db.db = chat.db.db := by
          rw [← dispatch_db backend agent call.name call.arguments chat.db, ran]
        cases outcome with
        | error exc =>
          refine ⟨same, List.prefix_rfl, fun _ _ => ⟨call, .head _, chat.db.drawn, ?_⟩⟩
          by_contra fine
          obtain ⟨result, done⟩ := (dispatch_returns_iff backend (standing chat.db.drawn) agent
            call.name call.arguments).mpr fine
          have both := done.symm.trans (congrArg Prod.fst ran)
          cases both
        | ok result =>
          exact later (by rw [db_take]; exact same) (staged_take { chat with db } call result)

/-- The calls the model makes in the rounds of a script. -/
def callsOf (script : Nat → Except Raised Response) (call : Call) : Prop :=
  ∃ round response, script round = .ok response ∧ call ∈ response.toolCalls

/-- What a turn leaves: an exception only of the model or of a call that crashes, and a reply with
everything that was staged, unless the model asks for a clarification. -/
structure Survives (role : UserRole) (script : Nat → Except Raised Response)
    (before after : Chat Session) (result : Except Raised TurnResult) : Prop where
  staged : before.staged <+: after.staged
  raised : ∀ exc, result = .error exc → (∃ round, script round = .error exc) ∨
    ∃ call, callsOf script call ∧ ∃ drawn,
      Crashes backend role ⟨before.db.db, drawn⟩ call.name call.arguments
  replied : ∀ reply, result = .ok reply → reply.operations = after.staged ∨
    ∃ call, callsOf script call ∧ call.name = requestClarification

/-- A turn that replies survives. -/
theorem survives_reply {role : UserRole} {script : Nat → Except Raised Response}
    {before after : Chat Session} (staged : before.staged <+: after.staged) (text : String) :
    Survives backend role script before after (.ok ⟨text, after.staged⟩) where
  staged := staged
  raised _ raised := by cases raised
  replied _ done := .inl (congrArg TurnResult.operations (Except.ok.inj done).symm)

/-- A turn that ends with an exception of the model survives its calls. -/
theorem survives_script {role : UserRole} {script : Nat → Except Raised Response}
    {before after : Chat Session} (staged : before.staged <+: after.staged) {round : Nat}
    {exc : Raised} (sent : script round = .error exc) :
    Survives backend role script before after (.error exc) where
  staged := staged
  raised other raised := .inl ⟨round, Except.error.inj raised ▸ sent⟩
  replied _ done := by cases done

/-- A round asks for a clarification only when the model does. -/
theorem asked_of_answerCalls {agent : Agent Session} {calls : List Call} {chat : Chat Session}
    {asked : String}
    (done : (answerCalls agent calls chat none).2 = .ok (some asked)) :
    ∃ call ∈ calls, call.name = requestClarification := by
  induction calls generalizing chat with
  | nil => cases done
  | cons call rest ih =>
    by_cases asks : call.name = requestClarification
    · exact ⟨call, .head _, asks⟩
    · simp only [answerCalls, if_neg asks] at done
      split at done
      · cases done
      · obtain ⟨other, inside, also⟩ := ih done
        exact ⟨other, List.mem_cons_of_mem _ inside, also⟩

/-- The rounds of a turn survive every call that does not crash. -/
theorem survives_rounds (agent : Agent Session) (script : Nat → Except Raised Response)
    (left round : Nat) (chat : Chat Session)
    (standing : ∀ drawn, Standing (backend.context ⟨chat.db.db, drawn⟩)) :
    Survives backend agent.role script chat
      (rounds (backend.agent agent) script left round chat).1
      (rounds (backend.agent agent) script left round chat).2 := by
  induction left generalizing round chat with
  | zero => exact survives_reply backend List.prefix_rfl _
  | succ left ih =>
    let asked := chat.asked (CommandAgent.openaiToolDefinitions
      (!isReadOnly (backend.agent agent)))
    have grown : chat.staged <+: asked.staged := List.prefix_rfl
    simp only [rounds]
    cases sent : script round with
    | error exc =>
      cases exc with
      | app error => exact survives_reply backend grown _
      | argument text => exact survives_script backend grown sent
      | other text => exact survives_script backend grown sent
    | ok response =>
      let opened := asked.say (.assistant response.content response.toolCalls)
      have leaves := leaves_answerCalls backend agent response.toolCalls opened standing none
      dsimp only
      split
      · exact survives_reply backend grown _
      · split
        · next after exc ran =>
          rw [show answerCalls _ _ opened none = _ from ran] at leaves
          refine ⟨leaves.staged, fun other raised => .inr ?_, fun _ done => by cases done⟩
          obtain ⟨call, inside, drawn, crashes⟩ := leaves.raised exc rfl
          exact ⟨call, ⟨round, response, sent, inside⟩, drawn, crashes⟩
        · next after question ran =>
          rw [show answerCalls _ _ opened none = _ from ran] at leaves
          refine ⟨leaves.staged, fun _ raised => (by cases raised), fun _ _ => .inr ?_⟩
          obtain ⟨call, inside, named⟩ := asked_of_answerCalls (congrArg Prod.snd ran)
          exact ⟨call, ⟨round, response, sent, inside⟩, named⟩
        · next after ran =>
          rw [show answerCalls _ _ opened none = _ from ran] at leaves
          have same : after.db.db = chat.db.db := leaves.db
          have rest := ih (round + 1) after (by rwa [same])
          refine ⟨leaves.staged.trans rest.staged, ?_, rest.replied⟩
          rw [← same]
          exact rest.raised

/-- A turn over a database with the row of the user, where every identifier that is drawn is new. -/
structure Ready (db : Database) : Prop where
  user : db.tables.userExists (some backend.user.id) = true
  fresh : ∀ drawn, ∀ row ∈ db.tables.planTasks, row.id ≠ (backend.ticks drawn).rowId

/-- Every dry run of such a turn finds what it needs. -/
theorem Ready.standing {backend : Backend ν} {db : Database} (ready : Ready backend db)
    (drawn : Nat) : Standing (backend.context ⟨db, drawn⟩) :=
  ⟨db.consistent, ready.user, ready.fresh drawn⟩

/-- A turn survives every call that does not crash. -/
theorem survives_runTurn {db : Database} (ready : Ready backend db) (agent : Agent Session)
    (script : Nat → Except Raised Response) (drawn : Nat) (content : String)
    (history : List (String × String)) :
    Survives backend agent.role script
      (CommandAgent.opened (backend.agent agent) ⟨db, drawn⟩ content history)
      (runTurn (backend.agent agent) script ⟨db, drawn⟩ content history).1
      (runTurn (backend.agent agent) script ⟨db, drawn⟩ content history).2 := by
  unfold runTurn
  split
  · exact @survives_reply _ backend _ _
      (CommandAgent.opened (backend.agent agent) ⟨db, drawn⟩ content history)
      ⟨⟨db, drawn⟩, [], [], []⟩ List.prefix_rfl _
  · exact survives_rounds backend agent script _ _ _ ready.standing

/-- The dispatcher returns a result exactly for the calls that do not crash. A turn raises an
exception only of the model or of a call that crashes, and a call keeps what was staged before. -/
theorem malformed_calls_return_iff {db : Database} (ready : Ready backend db)
    (agent : Agent Session) :
    (∀ drawn name arguments,
      (∃ result, (dispatch (backend.agent agent) name arguments ⟨db, drawn⟩).1 = .ok result) ↔
        ¬Crashes backend agent.role ⟨db, drawn⟩ name arguments) ∧
    (∀ script drawn content history, Survives backend agent.role script
      (CommandAgent.opened (backend.agent agent) ⟨db, drawn⟩ content history)
      (runTurn (backend.agent agent) script ⟨db, drawn⟩ content history).1
      (runTurn (backend.agent agent) script ⟨db, drawn⟩ content history).2) ∧
    ∀ calls chat clarification, chat.db.db = db →
      chat.staged <+: (answerCalls (backend.agent agent) calls chat clarification).1.staged := by
  refine ⟨fun drawn => dispatch_returns_iff backend (ready.standing drawn) agent,
    survives_runTurn backend ready agent, ?_⟩
  rintro calls chat clarification rfl
  exact (leaves_answerCalls backend agent calls chat ready.standing clarification).staged

/-- Numbers are integers, and texts are read as everywhere. -/
def sampleReading : Reading Int where
  toReaders := Handlers.sampleReaders
  json := ⟨fun value => value = 0, fun _ => "int", fun _ => ""⟩
  readBool
    | .bool value => some value
    | _ => none
  sliceEnd value := some (min value 10)
  invalid schema := "1 validation error for " ++ schema
  shown _ := ""

/-- A chat of the administrator about the sample client. -/
def sampleBackend : Backend Int where
  reading := sampleReading
  env := sampleEnv
  clientId := 2
  user := sampleAdmin
  knowledge := ⟨false, .fake, fun _ => []⟩
  thirty := 30
  ticks _ := ⟨10, 100, 200, 300⟩
  arguments := List.map fun entry => (entry.1, match entry.2 with
    | .str text => .str text
    | .int value => .number value
    | .bool value => .bool value
    | _ => .none)
  fields _ := []

/-- The agent of the administrator. -/
def sampleAgent : Agent Session where
  role := .admin
  isConfigured := true
  template := ""
  clientName := none
  today := "2025-03-01"
  str _ := ""
  tools := sampleBackend.tools

/-- The sample client is there with its administrator, and the identifier that is drawn is new. -/
theorem sampleBackend_ready : Ready sampleBackend (sampleDatabase []) where
  user := by decide
  fresh _ := (by decide : ∀ row ∈ (sampleDatabase []).tables.planTasks, row.id ≠ 100)

/-- A task looked up by a text is found, or reported as missing. -/
theorem malformed_calls_return_iff_text : ∃ result,
    (dispatch (sampleBackend.agent sampleAgent) "get_plan_task" [("task_id", .str "3")]
      ⟨sampleDatabase [], 0⟩).1 = .ok result := by
  refine ((malformed_calls_return_iff sampleBackend sampleBackend_ready sampleAgent).1 0 _ _).mpr ?_
  rintro ⟨spec, -, -, -, -, fails⟩
  exact fails

/-- A number for a task is an `AttributeError`, and the turn ends with it. -/
theorem number_ends_turn :
    (dispatch (sampleBackend.agent sampleAgent) "get_plan_task" [("task_id", .int 5)]
      ⟨sampleDatabase [], 0⟩).1 =
        .error (.other "'int' object has no attribute 'replace'") ∧
    (runTurn (sampleBackend.agent sampleAgent)
      (fun _ => .ok ⟨none, [⟨"call_1", "get_plan_task", [("task_id", .int 5)]⟩]⟩)
      ⟨sampleDatabase [], 0⟩ "Show task 5" []).2 =
        .error (.other "'int' object has no attribute 'replace'") := by
  constructor
  · rfl
  · rfl

end Dispatcher

end MarketingOS.ToolHandlers
