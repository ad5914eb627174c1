import MarketingOS.Models.Rows

/-!
# The transactions of others

What another transaction commits, as a list of row writes. A write replaces the row under a
key, adds it or deletes it, so the same write can be read into what another session sees. The
rows whose edits move an `updated_at` are the entities a staged operation can be compared with.
-/
namespace MarketingOS

/-- A row with an `updated_at`, named the way it is looked up. -/
inductive Entity where
  | planTask (clientId taskId : Uuid)
  | client (clientId : Uuid)
  | user (userId : Uuid)
deriving DecidableEq

/-- The `updated_at` of the live row. -/
def Entity.version (t : Tables) : Entity → Option Timestamp
  | .planTask clientId taskId => (t.getTask clientId taskId).map PlanTask.updatedAt
  | .client clientId => (t.getClient clientId).map Client.updatedAt
  | .user userId => (t.getUser userId).map User.updatedAt

/-- One row write; no row deletes. -/
inductive RowWrite where
  | client (id : Uuid) (row : Option Client)
  | user (id : Uuid) (row : Option User)
  | assignment (clientId userId : Uuid) (row : Option ClientAssignment)
  | planTask (clientId id : Uuid) (row : Option PlanTask)
  | note (id : Uuid) (row : Option PlanTaskNote)
  | asset (id : Uuid) (row : Option PlanTaskAsset)
  | event (id : Uuid) (row : Option MarketingEvent)
  | job (id : Uuid) (row : Option IntelJob)
  | audit (row : AuditLog)
deriving DecidableEq

namespace RowWrite

/-- The tables after the write. -/
def apply (t : Tables) : RowWrite → Tables
  | .client id row => { t with clients := Table.put Client.id id row t.clients }
  | .user id row => { t with users := Table.put User.id id row t.users }
  | .assignment clientId userId row =>
    { t with assignments := Table.put ClientAssignment.pair (clientId, userId) row t.assignments }
  | .planTask clientId id row =>
    { t with planTasks := Table.put PlanTask.scoped (id, clientId) row t.planTasks }
  | .note id row => { t with planTaskNotes := Table.put PlanTaskNote.id id row t.planTaskNotes }
  | .asset id row => { t with planTaskAssets := Table.put PlanTaskAsset.id id row t.planTaskAssets }
  | .event id row => { t with events := Table.put MarketingEvent.id id row t.events }
  | .job id row => { t with intelJobs := Table.put IntelJob.id id row t.intelJobs }
  | .audit row => { t with auditLog := t.auditLog ++ [row] }

/-- The tables after a transaction. -/
def applyAll (t : Tables) (writes : List RowWrite) : Tables := writes.foldl apply t

/-- The entity the write is to, with the `updated_at` it leaves. -/
def target : RowWrite → Option (Entity × Option Timestamp)
  | .client id row => some (.client id, row.map Client.updatedAt)
  | .user id row => some (.user id, row.map User.updatedAt)
  | .planTask clientId id row => some (.planTask clientId id, row.map PlanTask.updatedAt)
  | _ => none

/-- Whether the row stands under the key it is written to. -/
def keyed : RowWrite → Bool
  | .client id row => row.all fun new => new.id = id
  | .user id row => row.all fun new => new.id = id
  | .assignment clientId userId row => row.all fun new => new.pair = (clientId, userId)
  | .planTask clientId id row => row.all fun new => new.scoped = (id, clientId)
  | .note id row => row.all fun new => new.id = id
  | .asset id row => row.all fun new => new.id = id
  | .event id row => row.all fun new => new.id = id
  | .job id row => row.all fun new => new.id = id
  | .audit _ => true

/-- Whether two states of the tables hold the same row where the write goes. -/
def sameRow (t t' : Tables) : RowWrite → Bool
  | .client id _ => t.getClient id = t'.getClient id
  | .user id _ => t.getUser id = t'.getUser id
  | .assignment clientId userId _ =>
    t.getAssignment clientId userId = t'.getAssignment clientId userId
  | .planTask clientId id _ => t.getTask clientId id = t'.getTask clientId id
  | .note id _ => Table.get PlanTaskNote.id t.planTaskNotes id =
      Table.get PlanTaskNote.id t'.planTaskNotes id
  | .asset id _ => Table.get PlanTaskAsset.id t.planTaskAssets id =
      Table.get PlanTaskAsset.id t'.planTaskAssets id
  | .event id _ => t.getEvent id = t'.getEvent id
  | .job id _ => Table.get IntelJob.id t.intelJobs id = Table.get IntelJob.id t'.intelJobs id
  | .audit _ => true

/-- An edit of an existing entity advances its `updated_at`. -/
def advances (t : Tables) (write : RowWrite) : Bool :=
  write.target.all fun (entity, new) =>
    new.all fun new => (entity.version t).all fun old => old < new

/-- The entities a transaction writes. -/
def entities (writes : List RowWrite) : List Entity :=
  writes.filterMap fun write => write.target.map Prod.fst

end RowWrite

end MarketingOS
