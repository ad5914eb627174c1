import MarketingOS.Ai.ToolHandlers
import MarketingOS.Base.Dict
import MarketingOS.Models.RowConstraints
import MarketingOS.Verif.StagedWrites
import MarketingOS.Verif.TaskScope

/-! # Escaping exceptions of tools

The dispatcher turns a `TypeError`, a `ValueError` and an `AppError` of a handler into a tool
result and lets any other exception through. Which of these a malformed argument raises depends on
how the handler reads it: a value without the method that is called raises an `AttributeError`, a
missing key a `KeyError`, and a foreign identifier of nobody an `IntegrityError`. -/
namespace MarketingOS.ToolHandlers

open CommandAgent (Raised Draft)

/-! ## Escaping exceptions -/

section Escaping

variable {α β : Type}

/-- A computation raises an exception that the dispatcher lets through. -/
def Escapes (result : Except Raised α) : Prop := ∃ text, result = .error (.other text)

/-- A value does not escape. -/
@[simp] theorem not_escapes_ok (value : α) : ¬Escapes (.ok value : Except Raised α) := by
  rintro ⟨text, same⟩
  cases same

/-- A value does not escape. -/
@[simp] theorem not_escapes_pure (value : α) : ¬Escapes (pure value : Except Raised α) :=
  not_escapes_ok value

/-- A `TypeError` and a `ValueError` do not escape. -/
@[simp] theorem not_escapes_rejected (text : String) :
    ¬Escapes (rejected text : Except Raised α) := by
  rintro ⟨other, same⟩
  cases same

/-- An exception of another class escapes. -/
@[simp] theorem escapes_escaped (text : String) : Escapes (escaped text : Except Raised α) :=
  ⟨text, rfl⟩

/-- One step escapes, or the next does. -/
@[simp] theorem escapes_bind {first : Except Raised α} {next : α → Except Raised β} :
    Escapes (first >>= next) ↔
      Escapes first ∨ ∃ value, first = .ok value ∧ Escapes (next value) := by
  cases first with
  | error exc => simp [Escapes, bind, Except.bind]
  | ok value => simp [Escapes, bind, Except.bind]

/-- After a step that never escapes, the rest decides. -/
theorem escapes_calm {first : Except Raised α} {next : α → Except Raised β} {P : Prop}
    (calm : ¬Escapes first) (rest : ∀ value, Escapes (next value) ↔ P) :
    Escapes (first >>= next) ↔ (∃ value, first = .ok value) ∧ P := by
  simp only [escapes_bind, calm, rest, false_or, exists_and_right]

/-- A result escapes under a change of its value. -/
@[simp] theorem escapes_map {change : α → β} {first : Except Raised α} :
    Escapes (first.map change) ↔ Escapes first := by
  cases first with
  | error exc => simp [Escapes, Except.map]
  | ok value => simp [Escapes, Except.map]

/-- A result escapes under a change of its value. -/
@[simp] theorem escapes_fmap {change : α → β} {first : Except Raised α} :
    Escapes (change <$> first) ↔ Escapes first :=
  escapes_map

/-- An optional value that is required does not escape. -/
@[simp] theorem not_escapes_orRejected (text : String) (value : Option α) :
    ¬Escapes (orRejected text value) := by
  cases value with
  | none => exact not_escapes_rejected text
  | some value => exact not_escapes_ok value

/-- A result that is narrowed before it is used escapes when one of its branches does. -/
theorem escapes_ite {condition : Prop} [Decidable condition] {yes no : Except Raised α} :
    Escapes (if condition then yes else no) ↔
      condition ∧ Escapes yes ∨ ¬condition ∧ Escapes no := by
  by_cases holds : condition
  · simp [holds]
  · simp [holds]

/-- The items of a list are read up to a bad one. -/
def FirstBad (read : α → Except Raised β) (bad : α → Prop) (items : List α) : Prop :=
  ∃ front item back, items = front ++ item :: back ∧
    (∀ other ∈ front, ∃ value, read other = .ok value) ∧ bad item

/-- Reading a list escapes when the first item that cannot be read does. -/
@[simp] theorem escapes_mapM {read : α → Except Raised β} {items : List α} :
    Escapes (items.mapM read) ↔ FirstBad read (fun item => Escapes (read item)) items := by
  induction items with
  | nil =>
    rw [List.mapM_nil]
    constructor
    · exact fun escapes => absurd escapes (not_escapes_pure _)
    · rintro ⟨front, item, back, same, -⟩
      cases front <;> cases same
  | cons first rest ih =>
    simp only [List.mapM_cons, escapes_bind, not_escapes_pure, and_false, exists_false, or_false,
      ih]
    constructor
    · rintro (escapes | ⟨value, read, front, item, back, rfl, well, escapes⟩)
      · exact ⟨[], first, rest, rfl, by simp, escapes⟩
      · refine ⟨first :: front, item, back, rfl, ?_, escapes⟩
        exact List.forall_mem_cons.mpr ⟨⟨value, read⟩, well⟩
    · rintro ⟨front, item, back, same, well, escapes⟩
      cases front with
      | nil =>
        obtain ⟨rfl, rfl⟩ := List.cons.inj same
        exact .inl escapes
      | cons head front =>
        obtain ⟨rfl, rfl⟩ := List.cons.inj same
        obtain ⟨⟨value, read⟩, well⟩ := List.forall_mem_cons.mp well
        exact .inr ⟨value, read, front, item, back, rfl, well, escapes⟩

end Escaping

/-! ## Readings -/

section Readings

variable {ν : Type} {reading : Reading ν} {value : JsonValue ν}

/-- A value that `uuid.UUID` calls `replace` on, and that has none. -/
def NoIdentifier : JsonValue ν → Prop
  | .none | .str _ => False
  | .bool _ | .number _ | .list _ | .dict _ => True

/-- A value without the methods of a text. -/
def NoText : JsonValue ν → Prop
  | .str _ => False
  | .none | .bool _ | .number _ | .list _ | .dict _ => True

/-- A filter is given, and is no text. -/
def GivenNoText (reading : Reading ν) (value : JsonValue ν) : Prop :=
  reading.json.truthy value = true ∧ NoText value

/-- The arguments of a call are checked with a `TypeError`. -/
@[simp] theorem not_escapes_accept (signature : Signature) (arguments : RawArguments ν) :
    ¬Escapes (signature.accept arguments) := by
  unfold Signature.accept
  repeat' split
  all_goals simp

/-- A call of a missing method escapes. -/
@[simp] theorem escapes_noAttribute {α : Type} (name : String) :
    Escapes (noAttribute reading value name : Except Raised α) :=
  escapes_escaped _

/-- Reading an identifier escapes for a value without `replace`. -/
@[simp] theorem escapes_identifier : Escapes (identifier reading value) ↔ NoIdentifier value := by
  cases value <;> simp [identifier, NoIdentifier]

/-- Lowering a value escapes when it is no text. -/
@[simp] theorem escapes_lowered : Escapes (lowered reading value) ↔ NoText value := by
  cases value <;> simp [lowered, NoText]

/-- Reading a date does not escape. -/
@[simp] theorem not_escapes_isoDate : ¬Escapes (isoDate reading value) := by
  cases value <;> simp [isoDate]

/-- Reading a member of an enumeration does not escape. -/
@[simp] theorem not_escapes_member (α : Type) [Enumeration α] (className : String) :
    ¬Escapes (member reading α className value) := by
  cases value <;> simp [member]

/-- Iterating does not escape. -/
@[simp] theorem not_escapes_iterate : ¬Escapes (iterate reading value) := by
  cases value <;> simp [iterate]

/-- The end of a slice does not escape. -/
@[simp] theorem not_escapes_stopOf : ¬Escapes (stopOf reading value) := by
  unfold stopOf
  split <;> simp

/-- The window of a summary does not escape. -/
@[simp] theorem not_escapes_windowDays : ¬Escapes (windowDays reading value) := by
  unfold windowDays
  split <;> simp

/-- A refusal of a schema does not escape. -/
@[simp] theorem not_escapes_refuse {α : Type} (schema : String) :
    ¬Escapes (refuse reading schema : Except Raised α) :=
  not_escapes_rejected _

/-- What a schema makes of a value does not escape. -/
@[simp] theorem not_escapes_accepted {α : Type} (schema : String) (outcome : Outcome α) :
    ¬Escapes (accepted reading schema outcome) := by
  cases outcome <;> simp [accepted]

/-- A text field does not escape. -/
@[simp] theorem not_escapes_textField (schema : String) (lower upper : Nat) :
    ¬Escapes (textField reading schema lower upper value) := by
  unfold textField
  split
  · split
    · exact not_escapes_ok _
    · exact not_escapes_refuse schema
  · exact not_escapes_refuse schema

/-- A truth value does not escape. -/
@[simp] theorem not_escapes_boolField (schema : String) :
    ¬Escapes (boolField reading schema value) := by
  unfold boolField
  split <;> simp

/-- An optional reading escapes when there is a value and its reading does. -/
@[simp] theorem escapes_ifTruthy {α : Type} {read : JsonValue ν → Except Raised α} :
    Escapes (ifTruthy reading read value) ↔
      reading.json.truthy value = true ∧ Escapes (read value) := by
  unfold ifTruthy
  split
  · next given => simp [given]
  · next missing => simp [missing]

/-- A nullable reading escapes when there is a value and its reading does. -/
@[simp] theorem escapes_unlessNull {α : Type} {read : JsonValue ν → Except Raised α} :
    Escapes (unlessNull read value) ↔ value ≠ .none ∧ Escapes (read value) := by
  cases value <;> simp [unlessNull]

/-- A partial reading escapes when there is a value and its reading does. -/
@[simp] theorem escapes_sentUnlessNull {α : Type} {read : JsonValue ν → Except Raised α} :
    Escapes (sentUnlessNull read value) ↔ value ≠ .none ∧ Escapes (read value) := by
  rw [sentUnlessNull, escapes_map, escapes_unlessNull]

/-- A given value is no text exactly when it cannot be read as an identifier. -/
theorem givenNoText_iff :
    GivenNoText reading value ↔ reading.json.truthy value = true ∧ NoIdentifier value := by
  cases value <;> simp [GivenNoText, NoText, NoIdentifier, Integrations.JsonTables.truthy]

/-- Reading the window of a search does not escape. -/
@[simp] theorem not_escapes_resolveDateWindow (onDate startDate endDate : JsonValue ν) :
    ¬Escapes (resolveDateWindow reading onDate startDate endDate) := by
  unfold resolveDateWindow
  simp only
  split
  · simp
  · split
    · split
      · simp only [escapes_bind, not_escapes_isoDate, escapes_ite, not_escapes_rejected,
          not_escapes_pure, and_false, or_false, exists_false, not_false_eq_true]
      · simp
    · simp

end Readings

/-! ## Service calls -/

section Services

variable {ν α β : Type} {reading : Reading ν}

/-- The dispatcher turns an exception into a tool result. -/
def isCaught : PyError → Bool
  | .typeError | .valueError | .validationError => true
  | .keyError | .attributeError | .dbapiError => false

/-- A service call raises nothing that the dispatcher lets through. -/
def Handled (outcome : Outcome α) : Prop :=
  ∀ error, outcome = .error (.other error) → isCaught error = true

/-- A call of a handler escapes exactly when it is not handled. -/
@[simp] theorem escapes_call {outcome : Outcome α} :
    Escapes (call reading outcome) ↔ ¬Handled outcome := by
  unfold call
  match outcome with
  | .ok value => simp [ofOutcome, Handled]
  | .error (.app error) => simp [ofOutcome, Handled, Escapes]
  | .error (.other error) =>
    cases error <;> simp [ofOutcome, Handled, isCaught]

/-- A value is handled. -/
theorem Handled.ok (value : α) : Handled (.ok value) := fun error raised => by cases raised

/-- An `AppError` is handled. -/
theorem Handled.app (error : AppError) : Handled (.error (.app error) : Outcome α) :=
  fun other raised => by cases raised

/-- A call after a call. -/
theorem Handled.bind {first : Outcome α} {next : α → Outcome β} (handled : Handled first)
    (later : ∀ value, first = .ok value → Handled (next value)) : Handled (first >>= next) := by
  intro error raised
  cases done : first with
  | error exc =>
    rw [done] at raised
    obtain rfl := Except.error.inj raised
    exact handled error done
  | ok value =>
    rw [done, Outcome.ok_bind] at raised
    exact later value done error raised

/-- A client that is not visible is an `AppError`. -/
theorem handled_getClient (t : Tables) (user : User) (clientId : Uuid) :
    Handled (ClientService.getClient t user clientId) := by
  unfold ClientService.getClient
  split
  · exact .app _
  · split
    · exact .ok _
    · exact .app _

/-- A missing task is an `AppError`. -/
theorem handled_getTask (t : Tables) (clientId taskId : Uuid) :
    Handled (PlanService.getTask t clientId taskId) := by
  unfold PlanService.getTask
  split
  · exact .app _
  · exact .ok _

/-- Inverted ranges are `AppError`s, and times that cannot be compared a `TypeError`. -/
theorem handled_checkMerged (data : PlanTaskUpdate) (task : PlanTask) :
    Handled (PlanService.checkMerged data task) := by
  unfold PlanService.checkMerged checkRangesWith
  split
  · exact .app _
  · split
    · exact fun error raised => by cases raised; rfl
    · exact .app _
    · exact .ok _

/-- A missing right is an `AppError`. -/
theorem handled_requireAdmin (user : User) (message : String) :
    Handled (ProposalService.requireAdmin user message) := by
  unfold ProposalService.requireAdmin
  split
  · exact .ok _
  · exact .app _

/-- Tables in order are flushed. -/
theorem handled_flush {t : Tables} (valid : t.Consistent) : Handled (flush t) := by
  rw [flush, if_pos valid]
  exact .ok _

/-- The dry run of an update is handled: it does not reach the database. -/
theorem handled_update (tick : Tick) (t : Tables) (clientId : Uuid) (user : User) (taskId : Uuid)
    (data : PlanTaskUpdate) :
    Handled (ProposalService.stagePlanTaskUpdate tick t clientId user taskId data) := by
  refine (handled_getClient t user clientId).bind fun _ _ => ?_
  refine (handled_getTask t clientId taskId).bind fun existing _ => ?_
  refine .bind ?_ fun _ _ => .ok _
  refine (handled_getTask t clientId taskId).bind fun task _ => ?_
  exact (handled_checkMerged data task).bind fun _ _ => .ok _

/-- The dry run of a deletion is handled: a task can always go. -/
theorem handled_delete {t : Tables} (valid : t.Consistent) (clientId : Uuid) (user : User)
    (taskId : Uuid) : Handled (ProposalService.stagePlanTaskDelete t clientId user taskId) := by
  refine (handled_getClient t user clientId).bind fun _ _ => ?_
  refine (handled_getTask t clientId taskId).bind fun existing _ => ?_
  refine .bind ?_ fun _ _ => .ok _
  refine (handled_getTask t clientId taskId).bind fun task _ => ?_
  exact (handled_flush (valid.removeTask taskId)).bind fun _ _ => .ok _

/-- The dry run of a client edit is handled. -/
theorem handled_updateClient (env : Environment) (tick : Tick) (t : Tables) (clientId : Uuid)
    (user : User) (data : ClientUpdate env) :
    Handled (ProposalService.stageUpdateClient env tick t clientId user data) := by
  refine (handled_getClient t user clientId).bind fun existing _ => ?_
  refine (handled_requireAdmin user _).bind fun _ _ => ?_
  refine .bind ?_ fun _ _ => .ok _
  unfold ClientService.applyUpdateClient
  split
  · exact .app _
  · exact .ok _

/-- The dry run of a brand edit is handled. -/
theorem handled_updateBrand (env : Environment) (tick : Tick) (t : Tables) (clientId : Uuid)
    (user : User) (data : BrandUpdate) :
    Handled (ProposalService.stageUpdateBrand env tick t clientId user data) := by
  refine (handled_getClient t user clientId).bind fun existing _ => ?_
  exact (handled_requireAdmin user _).bind fun _ _ => .ok _

/-! ## Dry runs that add rows -/

/-- What a dry run finds: tables in order with the row of the user, and a new identifier. -/
structure Standing (context : Context) : Prop where
  valid : context.t.Consistent
  user : context.t.userExists (some context.user.id) = true
  fresh : ∀ row ∈ context.t.planTasks, row.id ≠ context.tick.rowId

/-- The client of the chat is visible to its user. -/
def Visible (context : Context) : Prop :=
  ∃ client, ClientService.getClient context.t context.user context.clientId = .ok client

variable {context : Context}

/-- A visible client has a row. -/
theorem Visible.has (visible : Visible context) :
    Table.has Client.id context.t.clients context.clientId = true := by
  obtain ⟨client, found⟩ := visible
  unfold ClientService.getClient at found
  split at found
  · cases found
  · next row there => exact Table.has_iff_get.mpr ⟨row, there⟩

/-- The dry run of a new task is handled unless its assignee is nobody. -/
theorem handled_create_iff (standing : Standing context) (data : PlanTaskCreate) :
    Handled (ProposalService.stagePlanTaskCreate context.tick context.t context.clientId
      context.user data) ↔ ¬(Visible context ∧ context.t.userExists data.assigneeId = false) := by
  let task := PlanService.newTask context.tick context.clientId data context.user.id
  constructor
  · rintro handled ⟨⟨client, found⟩, nobody⟩
    have unfit : ¬Tables.Consistent
        { context.t with planTasks := context.t.planTasks ++ [task] } := by
      rintro ⟨-, -, -, -, tasks, -⟩
      obtain ⟨-, -, -, -, -, -, -, assigned, -⟩ :=
        tasks task (List.mem_append_right _ (List.mem_singleton_self _))
      exact Bool.false_ne_true (nobody.symm.trans assigned)
    have refused : ProposalService.stagePlanTaskCreate context.tick context.t context.clientId
        context.user data = .error (.other .dbapiError) := by
      rw [ProposalService.stagePlanTaskCreate, found, Outcome.ok_bind, PlanService.applyCreateTask,
        flush, if_neg unfit]
      rfl
    exact absurd (handled _ refused) (by decide)
  · intro known
    refine (handled_getClient _ _ _).bind fun client found => ?_
    refine .bind ?_ fun _ _ => .ok _
    have visible : Visible context := ⟨client, found⟩
    have assigned : context.t.userExists data.assigneeId = true := by
      by_contra nobody
      exact known ⟨visible, Bool.eq_false_iff.mpr nobody⟩
    have storable : task.Storable context.t :=
      PlanService.storable_newTask context.tick visible.has assigned standing.user
    exact (handled_flush (standing.valid.addTask storable standing.fresh)).bind fun _ _ => .ok _

/-- The dry run of a copy is handled: a copy has no assignee. -/
theorem handled_duplicate (standing : Standing context) (taskId : Uuid) :
    Handled (ProposalService.stagePlanTaskDuplicate context.tick context.t context.clientId
      context.user taskId) := by
  refine (handled_getClient _ _ _).bind fun client found => ?_
  refine .bind ?_ fun _ _ => .ok _
  refine (handled_getTask _ _ _).bind fun source there => ?_
  have visible : Visible context := ⟨client, found⟩
  have inside : source ∈ context.t.planTasks := Table.get_mem (PlanService.getTask_ok.mp there)
  obtain ⟨-, -, -, -, tasks, -⟩ := id standing.valid
  have storable := PlanService.storable_copyOf context.tick (tasks source inside) visible.has
    standing.user
  exact (handled_flush (standing.valid.addTask storable standing.fresh)).bind fun _ _ => .ok _

/-- The dry run of a note is handled. -/
theorem handled_addNote (standing : Standing context) (taskId : Uuid) (data : PlanTaskNoteCreate) :
    Handled (ProposalService.stagePlanTaskAddNote context.tick context.t context.clientId
      context.user taskId data) := by
  refine (handled_getClient _ _ _).bind fun client found => ?_
  refine .bind ?_ fun _ _ => .ok _
  refine (handled_getTask _ _ _).bind fun task there => ?_
  have present : Table.has PlanTask.id context.t.planTasks task.id = true :=
    Table.has_iff_mem.mpr (List.mem_map_of_mem (Table.get_mem (PlanService.getTask_ok.mp there)))
  refine (handled_flush (standing.valid.addNote ?_)).bind fun _ _ => .ok _
  exact ⟨present, standing.user⟩

/-- A bulk tool is handled when every dry run is. -/
theorem handled_stageEach {stage : Uuid → Outcome Staged} (each : ∀ taskId, Handled (stage taskId))
    (ids : List Uuid) : Handled (Handlers.stageEach stage ids) := by
  induction ids with
  | nil => exact .ok _
  | cons taskId rest ih =>
    unfold Handlers.stageEach
    split
    · exact ih.bind fun _ _ => .ok _
    · exact ih.bind fun _ _ => .ok _
    · next error failed =>
      intro other same
      cases same
      exact each taskId error failed

end Services

/-! ## Read tools -/

section Handlers

variable {ν : Type} {reading : Reading ν} {context : Context} {arguments : RawArguments ν}

/-- The arguments of a call are the parameters of a tool. -/
def Accepted (name : String) (arguments : RawArguments ν) : Prop :=
  (signature name).accept arguments = .ok ()

/-- A handler escapes when its body does on accepted arguments. -/
theorem escapes_accept {α : Type} (name : String) {body : Except Raised α} :
    Escapes (do (signature name).accept arguments; body) ↔
      Accepted name arguments ∧ Escapes body := by
  rw [escapes_bind]
  constructor
  · rintro (escapes | ⟨⟨⟩, accepted, escapes⟩)
    · exact absurd escapes (not_escapes_accept _ _)
    · exact ⟨accepted, escapes⟩
  · exact fun ⟨accepted, escapes⟩ => .inr ⟨(), accepted, escapes⟩

/-- `get_plan_task` escapes on a task that is no identifier. -/
theorem escapes_getPlanTask :
    Escapes (getPlanTask reading context arguments) ↔
      Accepted "get_plan_task" arguments ∧ NoIdentifier (argument arguments "task_id") := by
  refine (escapes_accept _).trans (and_congr_right fun _ => ?_)
  simp [handled_getTask]

/-- `search_users` escapes on a query that is no text. -/
theorem escapes_searchUsers :
    Escapes (searchUsers reading context arguments) ↔
      Accepted "search_users" arguments ∧ GivenNoText reading (argument arguments "query") := by
  refine (escapes_accept _).trans (and_congr_right fun _ => ?_)
  have limit : ¬Escapes (limitOf reading arguments) := by
    unfold limitOf
    split <;> simp
  dsimp only
  split
  · next given => simp [GivenNoText, given, limit]
  · next missing => simp [GivenNoText, missing, limit]

/-- The embedder of the settings fails on a query. -/
def EmbedderFails (query : JsonValue ν) : Embedder ν → Prop
  | .fake => NoText query
  | .voyage embed => ∃ text, embed query = .error (.other text)

/-- Embedding a query escapes when the embedder fails. -/
theorem escapes_embed {query : JsonValue ν} {embedder : Embedder ν} :
    Escapes (embed reading embedder query) ↔ EmbedderFails query embedder := by
  cases embedder with
  | fake => cases query <;> simp [embed, EmbedderFails, NoText]
  | voyage embed => exact Iff.rfl

/-- A search of the knowledge fails: there is some, and the embedder fails on the query. -/
def KnowledgeFails (reading : Reading ν) (arguments : RawArguments ν) (knowledge : Knowledge ν) :
    Prop :=
  knowledge.profiled = true ∧ reading.json.truthy (argument arguments "query") = true ∧
    EmbedderFails (argument arguments "query") knowledge.embedder

/-- `search_knowledge_base` escapes when the search fails. -/
theorem escapes_searchKnowledgeBase {knowledge : Knowledge ν} :
    Escapes (searchKnowledgeBase reading arguments knowledge) ↔
      Accepted "search_knowledge_base" arguments ∧
        KnowledgeFails reading arguments knowledge := by
  refine (escapes_accept _).trans (and_congr_right fun _ => ?_)
  rw [escapes_ite]
  simp [KnowledgeFails, escapes_embed, and_assoc]

/-- `get_performance_summary` does not escape. -/
theorem not_escapes_getPerformanceSummary (thirty : ν) :
    ¬Escapes (getPerformanceSummary reading arguments thirty) := by
  simp [getPerformanceSummary]

/-- `get_client` does not escape. -/
theorem not_escapes_getClient : ¬Escapes (getClient reading context arguments) := by
  simp [getClient, handled_getClient]

/-- `get_editable_schema` does not escape. -/
theorem not_escapes_getEditableSchema :
    ¬Escapes (getEditableSchema arguments : Except Raised (Reply ν)) := by
  simp [getEditableSchema]

/-- Filtering titled tasks by title fails on a query that is no text only. -/
theorem titleFilter_cases {query : JsonValue ν} {rows : List PlanTask}
    (titled : ∀ row ∈ rows, row.title.isSome) :
    GivenNoText reading query ∧ Escapes (titleFilter reading query rows) ∨
      ¬GivenNoText reading query ∧ ∃ kept, titleFilter reading query rows = .ok kept := by
  unfold titleFilter
  split
  · next given =>
    cases query with
    | str text =>
      have all : (rows.any fun row => row.title.isNone) = false := by
        refine List.any_eq_false.mpr fun row inside => ?_
        simp [Option.isSome_iff_ne_none.mp (titled row inside)]
      refine .inr ⟨fun noText => noText.2,
        rows.filter fun row => row.title.any (Handlers.holds reading.toReaders text), ?_⟩
      show (if (rows.any fun row => row.title.isNone) = true then _ else _) = _
      rw [all]
      rfl
    | _ => exact .inl ⟨⟨given, trivial⟩, by simp [lowered]⟩
  · next missing => exact .inr ⟨fun noText => missing noText.1, _, rfl⟩

/-- Filtering by assignee escapes on an identifier that is no text. -/
theorem escapes_assigneeFilter {assigneeId assignedOnly : JsonValue ν} {rows : List PlanTask} :
    Escapes (assigneeFilter reading assigneeId assignedOnly rows) ↔
      GivenNoText reading assigneeId := by
  unfold assigneeFilter
  rw [givenNoText_iff]
  split
  · next given => simp [given]
  · next missing =>
    split
    · simp [missing]
    · simp [missing]

/-- The filters of a search escape on a query and on an assignee that are no text. -/
theorem escapes_filters {α : Type} {query assigneeId assignedOnly : JsonValue ν}
    {rows : List PlanTask} {next : List PlanTask → Except Raised α}
    (titled : ∀ row ∈ rows, row.title.isSome) (later : ∀ rows, ¬Escapes (next rows)) :
    Escapes (do
      let rows ← titleFilter reading query rows
      let rows ← assigneeFilter reading assigneeId assignedOnly rows
      next rows) ↔ GivenNoText reading query ∨ GivenNoText reading assigneeId := by
  have inner (kept : List PlanTask) : Escapes (do
      let rows ← assigneeFilter reading assigneeId assignedOnly kept
      next rows) ↔ GivenNoText reading assigneeId := by
    rw [escapes_bind, escapes_assigneeFilter]
    simp [later]
  rw [escapes_bind]
  rcases @titleFilter_cases _ reading query rows titled with ⟨noText, escapes⟩ | ⟨text, kept, done⟩
  · exact ⟨fun _ => .inl noText, fun _ => .inl escapes⟩
  · simp only [done, inner, not_escapes_ok, text, false_or, Except.ok.injEq, exists_eq_left']

/-- The limit of a search does not escape. -/
theorem not_escapes_limitOf : ¬Escapes (limitOf reading arguments) := by
  unfold limitOf
  split <;> simp

/-- The status of a search does not escape. -/
theorem not_escapes_status {value : JsonValue ν} :
    ¬Escapes (ifTruthy reading (member reading TaskStatus "TaskStatus") value) := by
  simp

/-- The filters of a scope fail: the query or the assignee is no text, once the status is read. -/
def FiltersFail (reading : Reading ν) (arguments : RawArguments ν) : Prop :=
  (∃ status, ifTruthy reading (member reading TaskStatus "TaskStatus")
    (argument arguments "status") = .ok status) ∧
  (GivenNoText reading (argument arguments "query") ∨
    GivenNoText reading (argument arguments "assignee_id"))

/-- A search fails: its dates are read and its filters fail. -/
def SearchFails (reading : Reading ν) (arguments : RawArguments ν) : Prop :=
  (∃ window, resolveDateWindow reading (argument arguments "on_date")
    (argument arguments "start_date") (argument arguments "end_date") = .ok window) ∧
  FiltersFail reading arguments

/-- `search_plan_tasks` escapes when the search fails. -/
theorem escapes_searchPlanTasks (valid : context.t.Consistent) :
    Escapes (searchPlanTasks reading context arguments) ↔
      Accepted "search_plan_tasks" arguments ∧ SearchFails reading arguments := by
  refine (escapes_accept _).trans (and_congr_right fun _ => ?_)
  refine escapes_calm (not_escapes_resolveDateWindow _ _ _) fun window => ?_
  refine escapes_calm not_escapes_status fun status => ?_
  have titled := Handlers.titled_of_listTasks valid context.clientId (Handlers.taskQuery status
    window window.isNone (reading.json.truthy (argument arguments "include_archived")))
  refine escapes_filters titled fun rows => ?_
  simp [not_escapes_limitOf]

/-! ## Write tools -/

/-- A draft escapes when its dry run is not handled. -/
@[simp] theorem escapes_draft {outcome : Outcome Staged} :
    Escapes (draft reading outcome) ↔ ¬Handled outcome := by
  simp [draft]

/-- A tool about a task escapes on a task that is no identifier. -/
theorem escapes_onTask {name : String} {stage : Uuid → Except Raised Draft}
    (calm : ∀ taskId, ¬Escapes (stage taskId)) :
    Escapes (onTask reading arguments name stage) ↔
      Accepted name arguments ∧ NoIdentifier (argument arguments "task_id") := by
  refine (escapes_accept _).trans (and_congr_right fun _ => ?_)
  simp [taskIdOf, calm]

/-- `propose_unassign_plan_task` escapes on a task that is no identifier. -/
theorem escapes_unassign :
    Escapes (proposeUnassignPlanTask reading context arguments) ↔
      Accepted "propose_unassign_plan_task" arguments ∧
        NoIdentifier (argument arguments "task_id") :=
  escapes_onTask fun taskId => by simp [stageUpdate, handled_update]

/-- `propose_archive_plan_task` escapes on a task that is no identifier. -/
theorem escapes_archive :
    Escapes (proposeArchivePlanTask reading context arguments) ↔
      Accepted "propose_archive_plan_task" arguments ∧
        NoIdentifier (argument arguments "task_id") :=
  escapes_onTask fun taskId => by simp [stageUpdate, handled_update]

/-- `propose_delete_plan_task` escapes on a task that is no identifier. -/
theorem escapes_delete (valid : context.t.Consistent) :
    Escapes (proposeDeletePlanTask reading context arguments) ↔
      Accepted "propose_delete_plan_task" arguments ∧
        NoIdentifier (argument arguments "task_id") :=
  escapes_onTask fun taskId => by simp [handled_delete valid]

/-- `propose_duplicate_plan_task` escapes on a task that is no identifier. -/
theorem escapes_duplicate (standing : Standing context) :
    Escapes (proposeDuplicatePlanTask reading context arguments) ↔
      Accepted "propose_duplicate_plan_task" arguments ∧
        NoIdentifier (argument arguments "task_id") :=
  escapes_onTask fun taskId => by simp [handled_duplicate standing]

/-- `propose_add_plan_task_note` escapes on a task that is no identifier. -/
theorem escapes_addNote (standing : Standing context) :
    Escapes (proposeAddPlanTaskNote reading context arguments) ↔
      Accepted "propose_add_plan_task_note" arguments ∧
        NoIdentifier (argument arguments "task_id") := by
  refine (escapes_accept _).trans (and_congr_right fun _ => ?_)
  simp [taskIdOf, handled_addNote standing]

/-- An assignment fails: the user is no identifier, or the user is one and the task is none. -/
def AssignFails (reading : Reading ν) (arguments : RawArguments ν) : Prop :=
  NoIdentifier (argument arguments "assignee_id") ∨
    (∃ userId, identifier reading (argument arguments "assignee_id") = .ok userId) ∧
      NoIdentifier (argument arguments "task_id")

/-- `propose_assign_user_to_plan_task` escapes when the assignment fails. -/
theorem escapes_assign :
    Escapes (proposeAssignUserToPlanTask reading context arguments) ↔
      Accepted "propose_assign_user_to_plan_task" arguments ∧ AssignFails reading arguments := by
  refine (escapes_accept _).trans (and_congr_right fun _ => ?_)
  simp [AssignFails, taskIdOf, stageUpdate, handled_update]

/-- An update fails: its changes are read and its task is no identifier. -/
def UpdateFails (reading : Reading ν) (arguments : RawArguments ν) : Prop :=
  (∃ data, updateData reading arguments = .ok data) ∧ NoIdentifier (argument arguments "task_id")

/-- `propose_update_plan_task` escapes when the update fails. -/
theorem escapes_update :
    Escapes (proposeUpdatePlanTask reading context arguments) ↔
      Accepted "propose_update_plan_task" arguments ∧ UpdateFails reading arguments := by
  refine (escapes_accept _).trans (and_congr_right fun _ => ?_)
  refine escapes_calm (by simp [updateData]) fun data => ?_
  simp [taskIdOf, stageUpdate, handled_update]

/-- The assignee of a new task is no text, once the enumerations before it are read. -/
def AssigneeFails (reading : Reading ν) (arguments : RawArguments ν) : Prop :=
  (∃ category, ifTruthy reading (member reading TaskCategory "TaskCategory")
    (argument arguments "category") = .ok category) ∧
  (∃ status, ifTruthy reading (member reading TaskStatus "TaskStatus")
    (argument arguments "status") = .ok status) ∧
  (∃ priority, ifTruthy reading (member reading TaskPriority "TaskPriority")
    (argument arguments "priority") = .ok priority) ∧
  GivenNoText reading (argument arguments "assignee_id")

/-- A new task fails: its assignee is no text, or is nobody. -/
def CreateFails (reading : Reading ν) (context : Context) (arguments : RawArguments ν) : Prop :=
  AssigneeFails reading arguments ∨
    ∃ data, createData reading arguments = .ok data ∧ Visible context ∧
      context.t.userExists data.assigneeId = false

/-- The body of a new task escapes when its assignee is no text. -/
theorem escapes_createData :
    Escapes (createData reading arguments) ↔ AssigneeFails reading arguments := by
  refine escapes_calm (by simp) fun category => ?_
  refine escapes_calm (by simp) fun status => ?_
  refine escapes_calm (by simp) fun priority => ?_
  simp [givenNoText_iff]

/-- `propose_create_plan_task` escapes when the new task fails. -/
theorem escapes_create (standing : Standing context) :
    Escapes (proposeCreatePlanTask reading context arguments) ↔
      Accepted "propose_create_plan_task" arguments ∧
        CreateFails reading context arguments := by
  refine (escapes_accept _).trans (and_congr_right fun _ => ?_)
  rw [escapes_bind, escapes_createData]
  simp [CreateFails, handled_create_iff standing]

/-- `propose_update_client` does not escape. -/
theorem not_escapes_updateClient :
    ¬Escapes (proposeUpdateClient reading context arguments) := by
  have zone : ¬Escapes (sentTimezone reading context.env (argument arguments "timezone")) := by
    cases argument arguments "timezone" <;> simp [sentTimezone, timezoneField]
  simp [proposeUpdateClient, clientData, zone, handled_updateClient]

/-- The scope of a bulk call fails: on the first identifier of its list that cannot be read, or, for
a range of dates, on its filters. -/
def ScopeFails (reading : Reading ν) (arguments : RawArguments ν) : Prop :=
  (reading.json.truthy (argument arguments "task_ids") = true ∧
    ∃ items, iterate reading (argument arguments "task_ids") = .ok items ∧
      FirstBad (identifier reading) NoIdentifier items) ∨
  (¬reading.json.truthy (argument arguments "task_ids") = true ∧
    (∃ window, resolveDateWindow reading .none (argument arguments "start_date")
      (argument arguments "end_date") = .ok (some window)) ∧
    FiltersFail reading arguments)

/-- `_resolve_bulk_task_ids` escapes when its scope fails. -/
theorem escapes_resolveBulkTaskIds (valid : context.t.Consistent) :
    Escapes (resolveBulkTaskIds reading context arguments) ↔ ScopeFails reading arguments := by
  unfold resolveBulkTaskIds
  dsimp only
  rw [escapes_ite]
  refine or_congr (and_congr_right fun _ => ?_) (and_congr_right fun _ => ?_)
  · simp
  · rw [escapes_bind, or_iff_right (not_escapes_resolveDateWindow _ _ _)]
    refine Iff.trans (b := ∃ window, resolveDateWindow reading .none
      (argument arguments "start_date") (argument arguments "end_date") = .ok window ∧
        window.isSome ∧ FiltersFail reading arguments)
      (exists_congr fun window => and_congr_right fun _ => ?_) ?_
    · cases window with
      | none => simp
      | some window =>
        have titled (status : Option TaskStatus) := Handlers.titled_of_listTasks valid
          context.clientId (Handlers.taskQuery status (some window) false
            (reading.json.truthy (argument arguments "include_archived")))
        refine (escapes_calm not_escapes_status fun status =>
          escapes_filters (titled status) fun rows => ?_).trans ?_
        · simp [escapes_ite]
        · simp [FiltersFail]
    · constructor
      · rintro ⟨window, read, there, fails⟩
        obtain ⟨window, rfl⟩ := Option.isSome_iff_exists.mp there
        exact ⟨⟨window, read⟩, fails⟩
      · rintro ⟨⟨window, read⟩, fails⟩
        exact ⟨some window, read, rfl, fails⟩

/-- `propose_bulk_delete_plan_tasks` escapes when its scope fails. -/
theorem escapes_bulkDelete (valid : context.t.Consistent) :
    Escapes (proposeBulkDeletePlanTasks reading context arguments) ↔
      Accepted "propose_bulk_delete_plan_tasks" arguments ∧ ScopeFails reading arguments := by
  refine (escapes_accept _).trans (and_congr_right fun _ => ?_)
  have staged (ids : List Uuid) := handled_stageEach
    (handled_delete valid context.clientId context.user) ids
  simp [escapes_resolveBulkTaskIds valid, escapes_ite, staged]

/-- The fields of a bulk update are read and one of them is given. -/
def ChangesGiven (reading : Reading ν) (arguments : RawArguments ν) : Prop :=
  ∃ newStatus priority category,
    unlessNull (member reading TaskStatus "TaskStatus") (argument arguments "new_status") =
      .ok newStatus ∧
    unlessNull (member reading TaskPriority "TaskPriority") (argument arguments "priority") =
      .ok priority ∧
    unlessNull (member reading TaskCategory "TaskCategory") (argument arguments "category") =
      .ok category ∧
    (newStatus.isNone && priority.isNone && category.isNone &&
      isNull (argument arguments "archived")) = false

/-- `propose_bulk_update_plan_tasks` escapes when its scope fails, once the changes are read. -/
theorem escapes_bulkUpdate (valid : context.t.Consistent) :
    Escapes (proposeBulkUpdatePlanTasks reading context arguments) ↔
      Accepted "propose_bulk_update_plan_tasks" arguments ∧ ChangesGiven reading arguments ∧
        ScopeFails reading arguments := by
  refine (escapes_accept _).trans (and_congr_right fun _ => ?_)
  have staged (data : PlanTaskUpdate) (ids : List Uuid) := handled_stageEach
    (fun taskId => handled_update context.tick context.t context.clientId context.user taskId data)
    ids
  have read (newStatus : Option TaskStatus) (priority : Option TaskPriority)
      (category : Option TaskCategory) :
      ¬Escapes (bulkData reading newStatus priority category (argument arguments "archived")) := by
    simp [bulkData]
  have acting (newStatus : Option TaskStatus) (priority : Option TaskPriority)
      (category : Option TaskCategory) : Escapes (do
        let ids ← resolveBulkTaskIds reading context arguments
        if ids.isEmpty then rejected "No tasks matched that scope — nothing to change."
        else do
          let data ← bulkData reading newStatus priority category (argument arguments "archived")
          let batch ← call reading (Handlers.stageEach (fun taskId =>
            ProposalService.stagePlanTaskUpdate context.tick context.t context.clientId context.user
              taskId data) ids)
          return Draft.batch batch) ↔ ScopeFails reading arguments := by
    simp only [escapes_bind, escapes_resolveBulkTaskIds valid, escapes_ite, not_escapes_rejected,
      read, escapes_call, staged, not_escapes_pure, not_true_eq_false, and_false, exists_false,
      or_false]
  constructor
  · intro escapes
    obtain escapes | ⟨newStatus, isStatus, escapes⟩ := escapes_bind.mp escapes
    · simp at escapes
    obtain escapes | ⟨priority, isPriority, escapes⟩ := escapes_bind.mp escapes
    · simp at escapes
    obtain escapes | ⟨category, isCategory, escapes⟩ := escapes_bind.mp escapes
    · simp at escapes
    obtain ⟨-, escapes⟩ | ⟨given, escapes⟩ := escapes_ite.mp escapes
    · exact absurd escapes (not_escapes_rejected _)
    · exact ⟨⟨newStatus, priority, category, isStatus, isPriority, isCategory,
        Bool.eq_false_iff.mpr given⟩, (acting newStatus priority category).mp escapes⟩
  · rintro ⟨⟨newStatus, priority, category, isStatus, isPriority, isCategory, given⟩, scope⟩
    refine escapes_bind.mpr (.inr ⟨newStatus, isStatus, ?_⟩)
    refine escapes_bind.mpr (.inr ⟨priority, isPriority, ?_⟩)
    refine escapes_bind.mpr (.inr ⟨category, isCategory, ?_⟩)
    refine escapes_ite.mpr (.inr ⟨Bool.eq_false_iff.mp given, ?_⟩)
    exact (acting newStatus priority category).mpr scope

/-- A colour object without a `hex`. -/
def NoHex : JsonValue ν → Prop
  | .dict entries => entries.lookup "hex" = none
  | .none | .bool _ | .number _ | .str _ | .list _ => False

/-- A colour escapes when it is an object without a `hex`. -/
theorem escapes_colorOf {c : JsonValue ν} : Escapes (colorOf reading c) ↔ NoHex c := by
  unfold colorOf
  rw [escapes_bind]
  constructor
  · rintro (escapes | ⟨hex, -, escapes⟩)
    · cases c with
      | dict entries =>
        cases there : entries.lookup "hex" with
        | none => exact there
        | some hex => simp [subscript, there] at escapes
      | _ => simp [subscript] at escapes
    · obtain escapes | ⟨label, -, escapes⟩ := escapes_bind.mp escapes
      · simp at escapes
      · split at escapes
        · split at escapes
          · exact absurd escapes (not_escapes_pure _)
          · exact absurd escapes (not_escapes_refuse _)
        · exact absurd escapes (not_escapes_refuse _)
  · intro missing
    cases c with
    | dict entries =>
      have absent : entries.lookup "hex" = none := missing
      exact .inl (by simp [subscript, absent])
    | _ => cases missing

/-- A brand edit fails: the first colour that cannot be read is an object without a `hex`. -/
def ColorsFail (reading : Reading ν) (arguments : RawArguments ν) : Prop :=
  argument arguments "colors" ≠ .none ∧
    ∃ items, iterate reading (argument arguments "colors") = .ok items ∧
      FirstBad (colorOf reading) NoHex items

/-- The fonts of a brand edit do not escape. -/
theorem not_escapes_fontsOf {value : JsonValue ν} : ¬Escapes (fontsOf reading value) := by
  have bounded (items : List String) : ¬Escapes (boundedItems reading 12 items) := by
    unfold boundedItems
    split <;> simp
  cases value with
  | list items =>
    simp only [fontsOf, escapes_bind, bounded, and_false, exists_false, or_false, escapes_mapM]
    rintro ⟨front, item, back, -, -, escapes⟩
    split at escapes <;> simp at escapes
  | _ => simp [fontsOf]

/-- `propose_update_brand` escapes when a colour fails. -/
theorem escapes_updateBrand :
    Escapes (proposeUpdateBrand reading context arguments) ↔
      Accepted "propose_update_brand" arguments ∧ ColorsFail reading arguments := by
  refine (escapes_accept _).trans (and_congr_right fun _ => ?_)
  have bounded (items : List BrandColorIn) : ¬Escapes (boundedItems reading 24 items) := by
    unfold boundedItems
    split <;> simp
  have read : Escapes (brandData reading arguments) ↔ ColorsFail reading arguments := by
    have colors : Escapes (colorsOf reading (argument arguments "colors")) ↔
        ∃ items, iterate reading (argument arguments "colors") = .ok items ∧
          FirstBad (colorOf reading) NoHex items := by
      simp [colorsOf, escapes_colorOf]
    unfold brandData
    simp only [escapes_bind, escapes_unlessNull, colors]
    refine or_iff_left ?_
    rintro ⟨colors, -, escapes⟩
    cases colors with
    | none => simp [not_escapes_fontsOf] at escapes
    | some colors => simp [bounded, not_escapes_fontsOf] at escapes
  rw [escapes_bind, read]
  simp [handled_updateBrand]

end Handlers

end MarketingOS.ToolHandlers
