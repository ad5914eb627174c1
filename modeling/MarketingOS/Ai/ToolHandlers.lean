import MarketingOS.Ai.ToolArguments

/-!
# Tool handlers

Every handler of the registry, on the arguments a model wrote. The read tools look into the tables
and the write tools make one dry run, or one for each task of a scope; the tables stay as they are.
-/
namespace MarketingOS.ToolHandlers

open CommandAgent (Draft Raised)

variable {ν : Type}

/-- What the handlers work on: the client and the user of the chat, and the tables of the session. -/
structure Context where
  env : Environment
  clientId : Uuid
  user : User
  tick : Tick
  t : Tables

/-- The embedder the settings select. -/
inductive Embedder (ν : Type) where
  /-- `FakeEmbedder`, without a key. -/
  | fake
  /-- `VoyageEmbedder`, with what its client raises for the texts it is given. -/
  | voyage (embed : JsonValue ν → Except Raised Unit)

/-- The indexed knowledge of a client. -/
structure Knowledge (ν : Type) where
  /-- The client has a current profile. -/
  profiled : Bool
  embedder : Embedder ν
  /-- The texts of the chunks nearest to a query. -/
  nearest : JsonValue ν → List String

/-- What a read tool returns, before its fields are written out. -/
inductive Reply (ν : Type) where
  | tasks (search : Handlers.TaskSearch)
  | task (task : PlanTask)
  | users (users : List User)
  | snippets (texts : List String)
  /-- The days asked for; the totals over them are left out. -/
  | performance (days : JsonValue ν)
  | client (client : Client)
  | editableSchema

/-- The parameters of a bulk scope. -/
def scopeNames : List String :=
  ["task_ids", "start_date", "end_date", "query", "status", "assignee_id", "assigned_only",
    "include_archived"]

/-- The parameters of a tool's handler. -/
def signature (name : String) : Signature :=
  match name with
  | "search_plan_tasks" => {
      name, positional := ["db", "client_id", "_user"]
      optional := ["query", "status", "on_date", "start_date", "end_date", "assignee_id",
        "assigned_only", "include_archived", "limit"] }
  | "get_plan_task" => {
      name, positional := ["db", "client_id", "_user"], required := ["task_id"] }
  | "search_users" => {
      name, positional := ["db", "client_id", "_user"], optional := ["query", "limit"] }
  | "search_knowledge_base" => {
      name, positional := ["db", "client_id", "_user"], required := ["query"] }
  | "get_performance_summary" => {
      name, positional := ["db", "client_id", "_user"], optional := ["days"] }
  | "get_editable_schema" => { name, positional := ["_db", "_client_id", "_user"] }
  | "propose_create_plan_task" => {
      name, required := ["title"]
      optional := ["description", "requirements", "category", "status", "priority", "assignee_id",
        "start_date", "due_date"] }
  | "propose_update_plan_task" => {
      name, required := ["task_id"]
      optional := ["title", "description", "requirements", "category", "status", "priority",
        "start_date", "due_date", "archived"] }
  | "propose_assign_user_to_plan_task" => { name, required := ["task_id", "assignee_id"] }
  | "propose_unassign_plan_task" => { name, required := ["task_id"] }
  | "propose_archive_plan_task" => { name, required := ["task_id"] }
  | "propose_delete_plan_task" => { name, required := ["task_id"] }
  | "propose_duplicate_plan_task" => { name, required := ["task_id"] }
  | "propose_add_plan_task_note" => { name, required := ["task_id", "body"] }
  | "propose_bulk_update_plan_tasks" => {
      name, optional := scopeNames ++ ["new_status", "priority", "category", "archived"] }
  | "propose_bulk_delete_plan_tasks" => { name, optional := scopeNames }
  | "propose_update_client" => {
      name
      optional := ["name", "business_type", "industry", "website", "location", "language",
        "timezone", "markets", "status"] }
  | "propose_update_brand" => {
      name
      optional := ["about_brand", "brand_voice", "color_guidelines", "logo_url", "colors",
        "fonts"] }
  | name => { name }

section Handlers

variable (reading : Reading ν) (context : Context) (arguments : RawArguments ν)

/-- The argument of a name; null when there is none. -/
def argument (name : String) : JsonValue ν := JsonValue.get arguments name

/-- A service call of a handler. -/
def call {α : Type} (outcome : Outcome α) : Except Raised α := ofOutcome reading.shown outcome

/-! ## Read tools -/

/-- `rows[:stop]` -/
def sliceTo {α : Type} (stop : Int) (rows : List α) : List α :=
  if 0 ≤ stop then rows.take stop.toNat else rows.take (rows.length - stop.natAbs)

/-- `_resolve_date_window` -/
def resolveDateWindow (onDate startDate endDate : JsonValue ν) :
    Except Raised (Option (Date × Date)) :=
  let given := reading.json.truthy
  if given onDate then do
    let day ← isoDate reading onDate
    return some (day, day)
  else if given startDate || given endDate then
    if given startDate && given endDate then do
      let start ← isoDate reading startDate
      let finish ← isoDate reading endDate
      if finish < start then rejected "end_date must be on or after start_date."
      else return some (start, finish)
    else rejected "Provide both start_date and end_date together for a range."
  else .ok none

/-- `[r for r in rows if q in r.title.lower()]`, when there is a query. -/
def titleFilter (query : JsonValue ν) (rows : List PlanTask) : Except Raised (List PlanTask) :=
  if reading.json.truthy query then do
    let q ← lowered reading query
    if rows.any fun row => row.title.isNone then
      escaped "'NoneType' object has no attribute 'lower'"
    else return rows.filter fun row => row.title.any (Handlers.holds reading.toReaders q)
  else .ok rows

/-- `_apply_assignee_filter` -/
def assigneeFilter (assigneeId assignedOnly : JsonValue ν) (rows : List PlanTask) :
    Except Raised (List PlanTask) :=
  if reading.json.truthy assigneeId then do
    let wanted ← identifier reading assigneeId
    return rows.filter fun row => row.assigneeId = some wanted
  else if reading.json.truthy assignedOnly then .ok (rows.filter fun row => row.assigneeId.isSome)
  else .ok rows

/-- The argument `limit`, with its default. -/
def limitOf : Except Raised Int :=
  match arguments.lookup "limit" with
  | none => .ok 10
  | some limit => stopOf reading limit

/-- `search_plan_tasks` -/
def searchPlanTasks : Except Raised (Reply ν) := do
  (signature "search_plan_tasks").accept arguments
  let query := argument arguments "query"
  let assigneeId := argument arguments "assignee_id"
  let assignedOnly := argument arguments "assigned_only"
  let window ← resolveDateWindow reading (argument arguments "on_date")
    (argument arguments "start_date") (argument arguments "end_date")
  let status ← ifTruthy reading (member reading TaskStatus "TaskStatus")
    (argument arguments "status")
  let (rows, total) := context.t.listTasks context.clientId (Handlers.taskQuery status window
    window.isNone (reading.json.truthy (argument arguments "include_archived")))
  let rows ← titleFilter reading query rows
  let rows ← assigneeFilter reading assigneeId assignedOnly rows
  let stop ← limitOf reading arguments
  let narrowed := reading.json.truthy query || window.isSome || reading.json.truthy assigneeId ||
    reading.json.truthy assignedOnly
  return .tasks ⟨if narrowed then rows.length else total, sliceTo stop rows⟩

/-- `get_plan_task` -/
def getPlanTask : Except Raised (Reply ν) := do
  (signature "get_plan_task").accept arguments
  let taskId ← identifier reading (argument arguments "task_id")
  let task ← call reading (PlanService.getTask context.t context.clientId taskId)
  return .task task

/-- `AssignmentRepository.list_for_client`, with the user of each row. -/
def assignedUsers (t : Tables) (clientId : Uuid) : List User :=
  (StableSort.sortBy ClientAssignment.createdAt
    (t.assignments.filter fun row => row.clientId = clientId)).filterMap fun row =>
      t.getUser row.userId

/-- `search_users` -/
def searchUsers : Except Raised (Reply ν) := do
  (signature "search_users").accept arguments
  let query := argument arguments "query"
  let candidates := assignedUsers context.t context.clientId
  let candidates ←
    if reading.json.truthy query then do
      let q ← lowered reading query
      let named := Handlers.holds reading.toReaders q
      pure (candidates.filter fun user => named user.name || named user.email)
    else pure candidates
  let stop ← limitOf reading arguments
  return .users (sliceTo stop candidates)

/-- The embedding of a query. -/
def embed : Embedder ν → JsonValue ν → Except Raised Unit
  | .fake, .str _ => .ok ()
  | .fake, query => noAttribute reading query "lower"
  | .voyage embed, query => embed query

/-- `search_knowledge_base` -/
def searchKnowledgeBase (knowledge : Knowledge ν) : Except Raised (Reply ν) := do
  (signature "search_knowledge_base").accept arguments
  let query := argument arguments "query"
  if knowledge.profiled && reading.json.truthy query then do
    embed reading knowledge.embedder query
    return .snippets (knowledge.nearest query)
  else return .snippets []

/-- `max(1, min(days, 90))` — a number stays within its bounds. -/
def windowDays : JsonValue ν → Except Raised (JsonValue ν)
  | .number value => .ok (.number value)
  | .bool value => .ok (.bool value)
  | value =>
    rejected ("'<' not supported between instances of 'int' and '" ++
      reading.json.typeName value ++ "'")

/-- `get_performance_summary` -/
def getPerformanceSummary (thirty : ν) : Except Raised (Reply ν) := do
  (signature "get_performance_summary").accept arguments
  let days ← windowDays reading ((arguments.lookup "days").getD (.number thirty))
  return .performance days

/-- `get_client` -/
def getClient : Except Raised (Reply ν) := do
  (signature "get_client").accept arguments
  let client ← call reading (ClientService.getClient context.t context.user context.clientId)
  return .client client

/-- `get_editable_schema` -/
def getEditableSchema : Except Raised (Reply ν) := do
  (signature "get_editable_schema").accept arguments
  return .editableSchema

/-! ## Write tools -/

/-- One staged operation. -/
def draft (outcome : Outcome Staged) : Except Raised Draft := do
  let staged ← call reading outcome
  return .operation staged.operation

/-- `stage_plan_task_update` -/
def stageUpdate (taskId : Uuid) (data : PlanTaskUpdate) : Except Raised Draft :=
  draft reading (ProposalService.stagePlanTaskUpdate context.tick context.t context.clientId
    context.user taskId data)

/-- The task a tool is about. -/
def taskIdOf : Except Raised Uuid := identifier reading (argument arguments "task_id")

/-- The body of a new task. -/
def createData : Except Raised PlanTaskCreate := do
  let schema := "PlanTaskCreate"
  let category ← ifTruthy reading (member reading TaskCategory "TaskCategory")
    (argument arguments "category")
  let status ← ifTruthy reading (member reading TaskStatus "TaskStatus")
    (argument arguments "status")
  let priority ← ifTruthy reading (member reading TaskPriority "TaskPriority")
    (argument arguments "priority")
  let assigneeId ← ifTruthy reading (identifier reading) (argument arguments "assignee_id")
  let startDate ← ifTruthy reading (isoDate reading) (argument arguments "start_date")
  let dueDate ← ifTruthy reading (isoDate reading) (argument arguments "due_date")
  let title ← textField reading schema 1 200 (argument arguments "title")
  let description ← unlessNull (textField reading schema 0 maxText)
    (argument arguments "description")
  let requirements ← unlessNull (textField reading schema 0 maxText)
    (argument arguments "requirements")
  accepted reading schema (PlanTaskCreate.validate title description requirements
    (category.getD .strategy) (status.getD .todo) (priority.getD .medium) assigneeId startDate
    dueDate none none)

/-- `propose_create_plan_task` -/
def proposeCreatePlanTask : Except Raised Draft := do
  (signature "propose_create_plan_task").accept arguments
  let data ← createData reading arguments
  draft reading (ProposalService.stagePlanTaskCreate context.tick context.t context.clientId
    context.user data)

/-- The body of an update of the fields that are given. -/
def updateData : Except Raised PlanTaskUpdate := do
  let schema := "PlanTaskUpdate"
  let category ← sentUnlessNull (member reading TaskCategory "TaskCategory")
    (argument arguments "category")
  let status ← sentUnlessNull (member reading TaskStatus "TaskStatus")
    (argument arguments "status")
  let priority ← sentUnlessNull (member reading TaskPriority "TaskPriority")
    (argument arguments "priority")
  let startDate ← sentUnlessNull (isoDate reading) (argument arguments "start_date")
  let dueDate ← sentUnlessNull (isoDate reading) (argument arguments "due_date")
  let title ← sentUnlessNull (textField reading schema 1 200) (argument arguments "title")
  let description ← sentUnlessNull (textField reading schema 0 maxText)
    (argument arguments "description")
  let requirements ← sentUnlessNull (textField reading schema 0 maxText)
    (argument arguments "requirements")
  let archived ← sentUnlessNull (boolField reading schema) (argument arguments "archived")
  accepted reading schema (PlanTaskUpdate.validate title description requirements category status
    priority none startDate dueDate none none archived)

/-- `propose_update_plan_task` -/
def proposeUpdatePlanTask : Except Raised Draft := do
  (signature "propose_update_plan_task").accept arguments
  let data ← updateData reading arguments
  let taskId ← taskIdOf reading arguments
  stageUpdate reading context taskId data

/-- An update of the assignee alone. -/
def assigneeUpdate (assigneeId : Option Uuid) : PlanTaskUpdate where
  title := none
  description := none
  requirements := none
  category := none
  status := none
  priority := none
  assigneeId := some assigneeId
  startDate := none
  dueDate := none
  startTime := none
  endTime := none
  archived := none
  ranges := Handlers.checkRanges_none

/-- `propose_assign_user_to_plan_task` -/
def proposeAssignUserToPlanTask : Except Raised Draft := do
  (signature "propose_assign_user_to_plan_task").accept arguments
  let assigneeId ← identifier reading (argument arguments "assignee_id")
  let taskId ← taskIdOf reading arguments
  stageUpdate reading context taskId (assigneeUpdate (some assigneeId))

/-- A tool whose only argument is the task it is about. -/
def onTask (name : String) (stage : Uuid → Except Raised Draft) : Except Raised Draft := do
  (signature name).accept arguments
  let taskId ← taskIdOf reading arguments
  stage taskId

/-- `propose_unassign_plan_task` -/
def proposeUnassignPlanTask : Except Raised Draft :=
  onTask reading arguments "propose_unassign_plan_task" fun taskId =>
    stageUpdate reading context taskId (assigneeUpdate none)

/-- `propose_archive_plan_task` -/
def proposeArchivePlanTask : Except Raised Draft :=
  onTask reading arguments "propose_archive_plan_task" fun taskId =>
    stageUpdate reading context taskId (Handlers.bulkUpdate none none none (some true))

/-- `propose_delete_plan_task` -/
def proposeDeletePlanTask : Except Raised Draft :=
  onTask reading arguments "propose_delete_plan_task" fun taskId =>
    draft reading (ProposalService.stagePlanTaskDelete context.t context.clientId context.user
      taskId)

/-- `propose_duplicate_plan_task` -/
def proposeDuplicatePlanTask : Except Raised Draft :=
  onTask reading arguments "propose_duplicate_plan_task" fun taskId =>
    draft reading (ProposalService.stagePlanTaskDuplicate context.tick context.t context.clientId
      context.user taskId)

/-- `propose_add_plan_task_note` -/
def proposeAddPlanTaskNote : Except Raised Draft := do
  (signature "propose_add_plan_task_note").accept arguments
  let taskId ← taskIdOf reading arguments
  let body ← textField reading "PlanTaskNoteCreate" 1 maxText (argument arguments "body")
  draft reading (ProposalService.stagePlanTaskAddNote context.tick context.t context.clientId
    context.user taskId ⟨body⟩)

/-- `_resolve_bulk_task_ids` -/
def resolveBulkTaskIds : Except Raised (List Uuid) :=
  let taskIds := argument arguments "task_ids"
  if reading.json.truthy taskIds then do
    let items ← iterate reading taskIds
    items.mapM (identifier reading)
  else do
    let window ← resolveDateWindow reading .none (argument arguments "start_date")
      (argument arguments "end_date")
    match window with
    | none => rejected "Provide either task_ids or both start_date and end_date."
    | some window =>
      let status ← ifTruthy reading (member reading TaskStatus "TaskStatus")
        (argument arguments "status")
      let (rows, _) := context.t.listTasks context.clientId (Handlers.taskQuery status (some window)
        false (reading.json.truthy (argument arguments "include_archived")))
      let rows ← titleFilter reading (argument arguments "query") rows
      let rows ← assigneeFilter reading (argument arguments "assignee_id")
        (argument arguments "assigned_only") rows
      if Handlers.maxBulkMatches < rows.length then
        rejected ((Handlers.errorText (.overLimit rows.length)).getD "")
      else return rows.map PlanTask.id

/-- The body of a bulk update of the fields that are given. -/
def bulkData (newStatus : Option TaskStatus) (priority : Option TaskPriority)
    (category : Option TaskCategory) (archived : JsonValue ν) : Except Raised PlanTaskUpdate := do
  let archived ← unlessNull (boolField reading "PlanTaskUpdate") archived
  return Handlers.bulkUpdate newStatus priority category archived

/-- Whether a value is null. -/
def isNull : JsonValue ν → Bool
  | .none => true
  | _ => false

/-- `propose_bulk_update_plan_tasks` -/
def proposeBulkUpdatePlanTasks : Except Raised Draft := do
  (signature "propose_bulk_update_plan_tasks").accept arguments
  let newStatus ← unlessNull (member reading TaskStatus "TaskStatus")
    (argument arguments "new_status")
  let priority ← unlessNull (member reading TaskPriority "TaskPriority")
    (argument arguments "priority")
  let category ← unlessNull (member reading TaskCategory "TaskCategory")
    (argument arguments "category")
  let archived := argument arguments "archived"
  if newStatus.isNone && priority.isNone && category.isNone && isNull archived then
    rejected ("Provide at least one field to change: new_status, priority, category, or " ++
      "archived.")
  else do
    let ids ← resolveBulkTaskIds reading context arguments
    if ids.isEmpty then rejected "No tasks matched that scope — nothing to change."
    else do
      let data ← bulkData reading newStatus priority category archived
      let batch ← call reading (Handlers.stageEach (fun taskId =>
        ProposalService.stagePlanTaskUpdate context.tick context.t context.clientId context.user
          taskId data) ids)
      return .batch batch

/-- `propose_bulk_delete_plan_tasks` -/
def proposeBulkDeletePlanTasks : Except Raised Draft := do
  (signature "propose_bulk_delete_plan_tasks").accept arguments
  let ids ← resolveBulkTaskIds reading context arguments
  if ids.isEmpty then rejected "No tasks matched that scope — nothing to delete."
  else do
    let batch ← call reading (Handlers.stageEach
      (ProposalService.stagePlanTaskDelete context.t context.clientId context.user) ids)
    return .batch batch

/-- A time zone of a client edit. -/
def timezoneField (env : Environment) : JsonValue ν → Except Raised (Option (Timezone env))
  | .str text => orRejected (reading.invalid "ClientUpdate") (validateTimezone env text)
  | _ => refuse reading "ClientUpdate"

/-- A time zone of a client edit, sent where the argument is not null. -/
def sentTimezone (env : Environment) :
    JsonValue ν → Except Raised (Patch (Timezone env))
  | .none => .ok none
  | value => (timezoneField reading env value).map some

/-- The body of a client edit. -/
def clientData (env : Environment) : Except Raised (ClientUpdate env) := do
  let text (lower upper : Nat) (name : String) : Except Raised (Patch (BoundedText lower upper)) :=
    sentUnlessNull (textField reading "ClientUpdate" lower upper) (argument arguments name)
  let status ← sentUnlessNull (member reading ClientStatus "ClientStatus")
    (argument arguments "status")
  let name ← text 1 200 "name"
  let businessType ← text 0 120 "business_type"
  let industry ← text 0 120 "industry"
  let website ← text 0 255 "website"
  let location ← text 0 160 "location"
  let language ← text 0 60 "language"
  let timezone ← sentTimezone reading env (argument arguments "timezone")
  let markets ← text 0 maxLongLine "markets"
  return ⟨name, businessType, industry, website, location, language, timezone, markets, status⟩

/-- `propose_update_client` -/
def proposeUpdateClient : Except Raised Draft := do
  (signature "propose_update_client").accept arguments
  let data ← clientData reading arguments context.env
  draft reading (ProposalService.stageUpdateClient context.env context.tick context.t
    context.clientId context.user data)

/-- `BrandColorIn(hex=c["hex"], label=c.get("label"))` -/
def colorOf (c : JsonValue ν) : Except Raised BrandColorIn := do
  let hex ← subscript reading "hex" c
  let label := match c with
    | .dict entries => JsonValue.get entries "label"
    | _ => .none
  let label ← unlessNull (textField reading "BrandColorIn" 0 60) label
  match hex with
  | .str text =>
    if isHex : isHexColor text = true then return ⟨⟨text, isHex⟩, some label⟩
    else refuse reading "BrandColorIn"
  | _ => refuse reading "BrandColorIn"

/-- The colours of a brand edit. -/
def colorsOf (colors : JsonValue ν) : Except Raised (List BrandColorIn) := do
  let items ← iterate reading colors
  items.mapM (colorOf reading)

/-- A list of a brand edit within its bound. -/
def boundedItems {α : Type} (limit : Nat) (items : List α) :
    Except Raised { items : List α // items.length ≤ limit } :=
  if fits : items.length ≤ limit then .ok ⟨items, fits⟩ else refuse reading "BrandUpdate"

/-- The font names of a brand edit. -/
def fontsOf : JsonValue ν → Except Raised { items : List String // items.length ≤ 12 }
  | .list items => do
    let names ← items.mapM fun item => match item with
      | .str text => .ok text
      | _ => refuse reading "BrandUpdate"
    boundedItems reading 12 names
  | _ => refuse reading "BrandUpdate"

/-- The body of a brand edit. -/
def brandData : Except Raised BrandUpdate := do
  let text (upper : Nat) (name : String) : Except Raised (Patch (BoundedText 0 upper)) :=
    sentUnlessNull (textField reading "BrandUpdate" 0 upper) (argument arguments name)
  let colors ← unlessNull (colorsOf reading) (argument arguments "colors")
  let colors ← match colors with
    | none => .ok none
    | some colors => (boundedItems reading 24 colors).map fun colors => some (some colors)
  let aboutBrand ← text maxText "about_brand"
  let brandVoice ← text maxLongLine "brand_voice"
  let colorGuidelines ← text maxText "color_guidelines"
  let logoUrl ← text 1024 "logo_url"
  let fonts ← sentUnlessNull (fontsOf reading) (argument arguments "fonts")
  return ⟨aboutBrand, brandVoice, none, colors, fonts, colorGuidelines, logoUrl⟩

/-- `propose_update_brand` -/
def proposeUpdateBrand : Except Raised Draft := do
  (signature "propose_update_brand").accept arguments
  let data ← brandData reading arguments
  draft reading (ProposalService.stageUpdateBrand context.env context.tick context.t
    context.clientId context.user data)

end Handlers

/-! ## The registry -/

/-- What the handlers of a chat are built from. -/
structure Backend (ν : Type) where
  reading : Reading ν
  env : Environment
  clientId : Uuid
  user : User
  knowledge : Knowledge ν
  /-- The default of `days`. -/
  thirty : ν
  /-- What each call reads of the clock and draws. -/
  ticks : Nat → Tick
  /-- The arguments of a call, which the turn only passes on. -/
  arguments : CommandAgent.Arguments → RawArguments ν
  /-- The fields of a reply. -/
  fields : Reply ν → CommandAgent.Arguments

/-- What a chat works on: the committed tables, which no call changes, and the calls so far. -/
structure Session where
  db : Database
  drawn : Nat

namespace Backend

variable (backend : Backend ν) (session : Session)

/-- What the next handler works on. -/
def context : Context where
  env := backend.env
  clientId := backend.clientId
  user := backend.user
  tick := backend.ticks session.drawn
  t := session.db.tables

/-- The handler of a read tool. -/
def readTool (name : String) (arguments : RawArguments ν) : Except Raised (Reply ν) :=
  let reading := backend.reading
  let context := backend.context session
  match name with
  | "search_plan_tasks" => searchPlanTasks reading context arguments
  | "get_plan_task" => getPlanTask reading context arguments
  | "search_users" => searchUsers reading context arguments
  | "search_knowledge_base" => searchKnowledgeBase reading arguments backend.knowledge
  | "get_performance_summary" => getPerformanceSummary reading arguments backend.thirty
  | "get_client" => getClient reading context arguments
  | _ => getEditableSchema arguments

/-- The handler of a write tool. -/
def writeTool (name : String) (arguments : RawArguments ν) : Except Raised Draft :=
  let reading := backend.reading
  let context := backend.context session
  match name with
  | "propose_create_plan_task" => proposeCreatePlanTask reading context arguments
  | "propose_update_plan_task" => proposeUpdatePlanTask reading context arguments
  | "propose_assign_user_to_plan_task" => proposeAssignUserToPlanTask reading context arguments
  | "propose_unassign_plan_task" => proposeUnassignPlanTask reading context arguments
  | "propose_archive_plan_task" => proposeArchivePlanTask reading context arguments
  | "propose_delete_plan_task" => proposeDeletePlanTask reading context arguments
  | "propose_duplicate_plan_task" => proposeDuplicatePlanTask reading context arguments
  | "propose_add_plan_task_note" => proposeAddPlanTaskNote reading context arguments
  | "propose_bulk_update_plan_tasks" => proposeBulkUpdatePlanTasks reading context arguments
  | "propose_bulk_delete_plan_tasks" => proposeBulkDeletePlanTasks reading context arguments
  | "propose_update_client" => proposeUpdateClient reading context arguments
  | _ => proposeUpdateBrand reading context arguments

/-- The handlers as a turn calls them. -/
def tools : CommandAgent.Tools Session where
  read name arguments session :=
    ((backend.readTool session name (backend.arguments arguments)).map backend.fields,
      { session with drawn := session.drawn + 1 })
  write name arguments session :=
    (backend.writeTool session name (backend.arguments arguments),
      { session with drawn := session.drawn + 1 })

end Backend

end MarketingOS.ToolHandlers
