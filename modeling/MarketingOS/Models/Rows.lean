import MarketingOS.Base.Table
import MarketingOS.Core.Exceptions
import MarketingOS.Models.Enums
import MarketingOS.Models.Values

/-!
# Rows, tables and transactions

The rows the services read and write, and the database they live in. `Tables` is what one
session sees: its attributes may be anything Python lets a caller assign, so a column the
database declares `NOT NULL` is optional here. `Database` is what is committed: tables that
meet the constraints the database checks, with clock times as a `Time` column stores them.
`flush` and `commit` are the only ways from the first to the second.
-/
namespace MarketingOS

/-- One entry of a diff: the value of a field before and after. -/
structure Change where
  before : Json
  after : Json
deriving DecidableEq

/-- `{field: {"before": ..., "after": ...}}`, in the order the fields are tracked. -/
abbrev Changes : Type := List (String × Change)

/-- `User`. -/
structure User where
  id : Uuid
  email : String
  name : String
  role : UserRole
  isActive : Bool
  updatedAt : Timestamp
deriving DecidableEq

/-- `ClientBrandColor`. -/
structure BrandColor where
  hex : String
  label : Option String
  position : Nat
deriving DecidableEq

/-- `ClientBrandFont`. -/
structure BrandFont where
  family : String
  usage : Option String
deriving DecidableEq

/-- `Client`, with the brand rows it owns. -/
structure Client where
  id : Uuid
  name : Option String
  businessType : Option String
  industry : Option String
  website : Option String
  location : Option String
  timezone : Option String
  language : Option String
  markets : Option String
  aboutBrand : Option String
  brandVoice : Option String
  brandExtracted : Option String
  colorGuidelines : Option String
  logoUrl : Option String
  status : Option ClientStatus
  updatedAt : Timestamp
  brandColors : List BrandColor
  brandFonts : List BrandFont
deriving DecidableEq

/-- `ClientAssignment` — no capability list means the full set. -/
structure ClientAssignment where
  id : Uuid
  clientId : Uuid
  userId : Uuid
  assignedBy : Option Uuid
  capabilities : Option (List String)
  createdAt : Timestamp
deriving DecidableEq

/-- The unique pair of an assignment. -/
def ClientAssignment.pair (row : ClientAssignment) : Uuid × Uuid := (row.clientId, row.userId)

/-- `PlanTask`. -/
structure PlanTask where
  id : Uuid
  clientId : Uuid
  title : Option String
  description : Option String
  requirements : Option String
  category : Option TaskCategory
  status : Option TaskStatus
  priority : Option TaskPriority
  assigneeId : Option Uuid
  eventId : Option Uuid
  startDate : Option Date
  dueDate : Option Date
  startTime : Option Time
  endTime : Option Time
  createdBy : Option Uuid
  archived : Option Bool
  createdAt : Timestamp
  updatedAt : Timestamp
deriving DecidableEq

/-- A task is only ever read under its client. -/
def PlanTask.scoped (task : PlanTask) : Uuid × Uuid := (task.id, task.clientId)

/-- `PlanTaskNote`. -/
structure PlanTaskNote where
  id : Uuid
  taskId : Uuid
  userId : Option Uuid
  body : String
  createdAt : Timestamp
deriving DecidableEq

/-- `PlanTaskAsset` — a supporting link of a task. -/
structure PlanTaskAsset where
  id : Uuid
  taskId : Uuid
  url : String
  label : Option String
  position : Nat
  createdAt : Timestamp
deriving DecidableEq

/-- `EventPost` — the content of a calendar item. -/
structure EventPost where
  caption : Option String
  hashtags : Option String
  contentFormat : Option String
deriving DecidableEq

/-- `EventActivity` — one line of a calendar item's history. -/
structure EventActivity where
  action : String
  note : Option String
  userId : Option Uuid
deriving DecidableEq

/-- `MarketingEvent`, with its post and its history. -/
structure MarketingEvent where
  id : Uuid
  clientId : Uuid
  title : String
  type : EventType
  platform : SocialPlatform
  eventDate : Date
  eventTime : Time
  stage : EventStage
  approvalStatus : ApprovalStatus
  approvedBy : Option Uuid
  approvalNote : Option String
  createdBy : Option Uuid
  post : Option EventPost
  activity : List EventActivity
deriving DecidableEq

/-- `IntelJob` — one job of the client-intelligence queue; `changedKeys` is its payload. -/
structure IntelJob where
  id : Uuid
  clientId : Uuid
  jobType : IntelJobType
  status : IntelJobStatus
  changedKeys : Option (List String)
  priority : Int
  runAfter : Option Timestamp
  attempts : Nat
  maxAttempts : Nat
  lockedBy : Option String
  lockedAt : Option Timestamp
  lastError : Option String
  createdAt : Timestamp
deriving DecidableEq

/-- `AuditLog`. -/
structure AuditLog where
  id : Uuid
  actorUserId : Option Uuid
  clientId : Option Uuid
  proposalId : Option Uuid
  entity : String
  entityId : Option Uuid
  action : String
  targetLabel : Option String
  changes : Option Changes
  createdAt : Timestamp
deriving DecidableEq

/-- `ProposedOperation` — one staged write of a proposal. `baseSnapshot` is the `updated_at` of
the live row at staging time. -/
structure ProposedOperation where
  seq : Nat
  operationType : ProposedOperationType
  entityType : String
  entityId : Option Uuid
  entityLabel : Option String
  fieldChanges : Option Changes
  payload : Option (List (String × Json))
  baseSnapshot : Option Timestamp
  requiredCapability : Option String
  requiresAdmin : Bool
  status : ProposedOperationStatus
  error : Option String
deriving DecidableEq

/-- `ChangeProposal`, with its operations in `seq` order. -/
structure ChangeProposal where
  id : Uuid
  clientId : Uuid
  chatId : Option Uuid
  messageId : Option Uuid
  createdByUserId : Option Uuid
  status : ProposalStatus
  rawRequest : Option String
  summary : Option String
  error : Option String
  createdAt : Timestamp
  expiresAt : Option Timestamp
  approvedByUserId : Option Uuid
  approvedAt : Option Timestamp
  executedAt : Option Timestamp
  operations : List ProposedOperation
deriving DecidableEq

/-- A proposal is only ever read under its client. -/
def ChangeProposal.scoped (proposal : ChangeProposal) : Uuid × Uuid :=
  (proposal.id, proposal.clientId)

/-- The tables one session sees. -/
structure Tables where
  clients : List Client
  users : List User
  assignments : List ClientAssignment
  planTasks : List PlanTask
  planTaskNotes : List PlanTaskNote
  planTaskAssets : List PlanTaskAsset
  events : List MarketingEvent
  intelJobs : List IntelJob
  auditLog : List AuditLog
  proposals : List ChangeProposal
deriving DecidableEq

namespace Tables

/-- `ClientRepository.get`. -/
def getClient (t : Tables) (clientId : Uuid) : Option Client :=
  Table.get Client.id t.clients clientId

/-- `UserRepository.get`. -/
def getUser (t : Tables) (userId : Uuid) : Option User := Table.get User.id t.users userId

/-- `AssignmentRepository.get`. -/
def getAssignment (t : Tables) (clientId userId : Uuid) : Option ClientAssignment :=
  Table.get ClientAssignment.pair t.assignments (clientId, userId)

/-- `PlanTaskRepository.get_for_client`. -/
def getTask (t : Tables) (clientId taskId : Uuid) : Option PlanTask :=
  Table.get PlanTask.scoped t.planTasks (taskId, clientId)

/-- The calendar item a task is linked to (`PlanTask.event`). -/
def getEvent (t : Tables) (eventId : Uuid) : Option MarketingEvent :=
  Table.get MarketingEvent.id t.events eventId

/-- `ProposalRepository.get_for_client`. -/
def getProposal (t : Tables) (clientId proposalId : Uuid) : Option ChangeProposal :=
  Table.get ChangeProposal.scoped t.proposals (proposalId, clientId)

/-- Write changed attributes of one plan task. -/
def modifyTask (t : Tables) (taskId : Uuid) (change : PlanTask → PlanTask) : Tables :=
  { t with planTasks := Table.modify PlanTask.id taskId change t.planTasks }

/-- Write changed attributes of one client. -/
def modifyClient (t : Tables) (clientId : Uuid) (change : Client → Client) : Tables :=
  { t with clients := Table.modify Client.id clientId change t.clients }

/-- Write changed attributes of one user. -/
def modifyUser (t : Tables) (userId : Uuid) (change : User → User) : Tables :=
  { t with users := Table.modify User.id userId change t.users }

/-- Write changed attributes of one calendar item. -/
def modifyEvent (t : Tables) (eventId : Uuid) (change : MarketingEvent → MarketingEvent) :
    Tables :=
  { t with events := Table.modify MarketingEvent.id eventId change t.events }

/-- Write changed attributes of one proposal. -/
def modifyProposal (t : Tables) (proposalId : Uuid) (change : ChangeProposal → ChangeProposal) :
    Tables :=
  { t with proposals := Table.modify ChangeProposal.id proposalId change t.proposals }

/-- Whether a foreign key to `users` is satisfied. -/
def userExists (t : Tables) (userId : Option Uuid) : Bool :=
  userId.all fun id => Table.has User.id t.users id

end Tables

/-- The length constraint of an optional text column. -/
def fits (limit : Nat) (text : Option String) : Bool := text.all fun value => value.length ≤ limit

/-- The constraints of `clients` and of the brand rows a client owns. -/
def Client.Storable (client : Client) : Prop :=
  client.name.isSome ∧ fits 160 client.name ∧ client.status.isSome ∧
  fits 120 client.businessType ∧ fits 120 client.industry ∧ fits 255 client.website ∧
  fits 160 client.location ∧ fits 60 client.timezone ∧ fits 60 client.language ∧
  (∀ color ∈ client.brandColors, color.hex.length ≤ 9 ∧ fits 60 color.label) ∧
  ∀ font ∈ client.brandFonts, font.family.length ≤ 120 ∧ fits 60 font.usage

/-- The constraints of `users`. -/
def User.Storable (user : User) : Prop := user.email.length ≤ 255 ∧ user.name.length ≤ 120

/-- The constraints of `client_assignments` on one row. -/
def ClientAssignment.Storable (t : Tables) (row : ClientAssignment) : Prop :=
  Table.has Client.id t.clients row.clientId ∧ t.userExists (some row.userId) ∧
  t.userExists row.assignedBy

/-- The constraints of `plan_tasks` on one row. -/
def PlanTask.Storable (t : Tables) (task : PlanTask) : Prop :=
  task.title.isSome ∧ fits 200 task.title ∧ task.category.isSome ∧ task.status.isSome ∧
  task.priority.isSome ∧ task.archived.isSome ∧ Table.has Client.id t.clients task.clientId ∧
  t.userExists task.assigneeId ∧ t.userExists task.createdBy ∧
  task.eventId.all fun id => Table.has MarketingEvent.id t.events id

/-- The constraints of `plan_task_notes` on one row. -/
def PlanTaskNote.Storable (t : Tables) (note : PlanTaskNote) : Prop :=
  Table.has PlanTask.id t.planTasks note.taskId ∧ t.userExists note.userId

/-- The constraints of `marketing_events` and `event_posts` on one item. -/
def MarketingEvent.Storable (t : Tables) (event : MarketingEvent) : Prop :=
  event.title.length ≤ 200 ∧ Table.has Client.id t.clients event.clientId ∧
  t.userExists event.approvedBy ∧ t.userExists event.createdBy ∧
  (event.post.all fun post => fits 30 post.contentFormat) ∧
  ∀ line ∈ event.activity, t.userExists line.userId

instance (client : Client) : Decidable client.Storable := by
  unfold Client.Storable; infer_instance
instance (user : User) : Decidable user.Storable := by
  unfold User.Storable; infer_instance
instance (t : Tables) (row : ClientAssignment) : Decidable (row.Storable t) := by
  unfold ClientAssignment.Storable; infer_instance
instance (t : Tables) (task : PlanTask) : Decidable (task.Storable t) := by
  unfold PlanTask.Storable; infer_instance
instance (t : Tables) (note : PlanTaskNote) : Decidable (note.Storable t) := by
  unfold PlanTaskNote.Storable; infer_instance
instance (t : Tables) (event : MarketingEvent) : Decidable (event.Storable t) := by
  unfold MarketingEvent.Storable; infer_instance

/-- The `NOT NULL`, length, foreign-key and unique constraints of the tables the modelled
operations write. -/
def Tables.Consistent (t : Tables) : Prop :=
  (∀ client ∈ t.clients, client.Storable) ∧ (∀ user ∈ t.users, user.Storable) ∧
  (∀ row ∈ t.assignments, row.Storable t) ∧
  (t.assignments.map ClientAssignment.pair).Nodup ∧
  (∀ task ∈ t.planTasks, task.Storable t) ∧ (t.planTasks.map PlanTask.id).Nodup ∧
  (∀ note ∈ t.planTaskNotes, note.Storable t) ∧ (∀ event ∈ t.events, event.Storable t) ∧
  (t.proposals.map ChangeProposal.id).Nodup

instance (t : Tables) : Decidable t.Consistent := by
  unfold Tables.Consistent; infer_instance

/-- A task as its row holds it: clock times lose their offset. -/
def PlanTask.stored (task : PlanTask) : PlanTask :=
  { task with startTime := task.startTime.map Time.stored, endTime := task.endTime.map Time.stored }

/-- Storing a task twice stores the same. -/
@[simp] theorem PlanTask.stored_stored (task : PlanTask) : task.stored.stored = task.stored := by
  simp [PlanTask.stored, Function.comp_def]

/-- Storing a task keeps the columns its constraints speak of. -/
@[simp] theorem PlanTask.storable_stored {t : Tables} {task : PlanTask} :
    task.stored.Storable t ↔ task.Storable t := Iff.rfl

/-- The tables as their rows hold them. -/
def Tables.stored (t : Tables) : Tables := { t with planTasks := t.planTasks.map PlanTask.stored }

/-- Storing tables twice stores the same. -/
@[simp] theorem Tables.stored_stored (t : Tables) : t.stored.stored = t.stored := by
  simp [Tables.stored, Function.comp_def]

/-- Storing keeps the key of every task. -/
theorem Tables.has_task_stored (t : Tables) (taskId : Uuid) :
    Table.has PlanTask.id t.stored.planTasks taskId = Table.has PlanTask.id t.planTasks taskId := by
  simp only [Table.has, Tables.stored, List.any_map]
  rfl

/-- A task is read back as its row holds it. -/
theorem Tables.getTask_stored (t : Tables) (clientId taskId : Uuid) :
    t.stored.getTask clientId taskId = (t.getTask clientId taskId).map PlanTask.stored := by
  unfold Tables.getTask Tables.stored Table.get
  rw [List.find?_map]
  rfl

/-- Tables that meet every constraint still meet them as their rows hold them. -/
theorem Tables.Consistent.stored {t : Tables} (valid : t.Consistent) : t.stored.Consistent := by
  obtain ⟨clients, users, assignments, pairs, tasks, ids, notes, events, proposals⟩ := valid
  refine ⟨clients, users, assignments, pairs, ?_, ?_, ?_, events, proposals⟩
  · intro task inside
    simp only [Tables.stored, List.mem_map] at inside
    obtain ⟨source, member, rfl⟩ := inside
    exact tasks source member
  · have same : (PlanTask.id ∘ PlanTask.stored) = PlanTask.id := rfl
    simpa only [Tables.stored, List.map_map, same] using ids
  · intro note inside
    have valid := notes note inside
    exact ⟨(t.has_task_stored note.taskId).symm ▸ valid.1, valid.2⟩

/-- What is committed: tables that meet every constraint, as their rows hold them. -/
structure Database where
  tables : Tables
  /-- Every constraint is met. -/
  consistent : tables.Consistent
  /-- No attribute differs from what its column holds. -/
  columns : tables.stored = tables
deriving DecidableEq

/-- A committed state is determined by its tables. -/
theorem Database.eq_of_tables {db db' : Database} (same : db.tables = db'.tables) : db = db' := by
  cases db
  cases db'
  cases same
  rfl

/-- `Session.flush` — send what changed to the database, which checks its constraints. -/
def flush (t : Tables) : Outcome Tables := if t.Consistent then .ok t else raised .dbapiError

/-- `Session.commit` — flush, and make what the rows hold the committed state. -/
def commit (t : Tables) : Outcome Database :=
  if valid : t.Consistent then .ok ⟨t.stored, valid.stored, t.stored_stored⟩
  else raised .dbapiError

/-- A flush changes nothing a session sees. -/
theorem flush_ok {t flushed : Tables} (sent : flush t = .ok flushed) :
    flushed = t ∧ t.Consistent := by
  unfold flush at sent
  split at sent
  · next valid => exact ⟨(Except.ok.inj sent).symm, valid⟩
  · cases sent

/-- What a commit makes the committed state. -/
theorem commit_ok {t : Tables} {db : Database} (committed : commit t = .ok db) :
    db.tables = t.stored := by
  unfold commit at committed
  split at committed
  · exact (Except.ok.inj committed) ▸ rfl
  · cases committed

/-- Tables that meet every constraint can be committed. -/
theorem commit_of_consistent {t : Tables} (valid : t.Consistent) :
    commit t = .ok ⟨t.stored, valid.stored, t.stored_stored⟩ := by
  simp only [commit, valid, ↓reduceDIte]

/-- Every task of a committed state is what its row holds. -/
theorem Database.tasks_stored (db : Database) :
    db.tables.planTasks.map PlanTask.stored = db.tables.planTasks :=
  congrArg Tables.planTasks db.columns

/-- A task of a committed state is what its row holds. -/
theorem Database.task_stored (db : Database) {task : PlanTask}
    (inside : task ∈ db.tables.planTasks) : task.stored = task := by
  have columns := db.tasks_stored
  rw [← List.map_id db.tables.planTasks, List.map_map] at columns
  exact List.map_inj_left.mp columns task inside

/-- Tables that meet every constraint still do after a write to a proposal that keeps its
identifier. -/
theorem Tables.Consistent.modifyProposal {t : Tables} (valid : t.Consistent) (proposalId : Uuid)
    {change : ChangeProposal → ChangeProposal} (keeps : ∀ p, (change p).id = p.id) :
    (t.modifyProposal proposalId change).Consistent := by
  obtain ⟨clients, users, assignments, pairs, tasks, ids, notes, events, proposals⟩ := valid
  refine ⟨clients, users, assignments, pairs, tasks, ids, notes, events, ?_⟩
  rw [Tables.modifyProposal, Table.map_modify _ ChangeProposal.id fun p _ => keeps p]
  exact proposals

/-- A transaction that writes only a proposal, and keeps its identifier, breaks no constraint. -/
def Database.modifyProposal (db : Database) (proposalId : Uuid)
    (change : ChangeProposal → ChangeProposal)
    (keeps : ∀ p, (change p).id = p.id := by intro; rfl) : Database where
  tables := db.tables.modifyProposal proposalId change
  consistent := db.consistent.modifyProposal proposalId keeps
  columns := by
    have columns := db.tasks_stored
    simp only [Tables.stored, Tables.modifyProposal, columns]

end MarketingOS
