import MarketingOS.Models.Rows

/-!
# Constraints after a write

What a single row write must meet so that tables that met every constraint still do: a new row its
own constraints and a new key, a rewritten row its own constraints, and a deleted row nothing more
than that the rows that refer to it go with it.
-/
namespace MarketingOS

/-- Tables with the same keys have rows under the same keys. -/
theorem Table.has_congr {ρ κ : Type} [DecidableEq κ] {key : ρ → κ} {rows rows' : List ρ}
    (same : rows'.map key = rows.map key) (k : κ) : has key rows' k = has key rows k := by
  have read (list : List ρ) : has key list k = (list.map key).any fun other => other = k := by
    rw [has, List.any_map]
    rfl
  rw [read, read, same]

/-- A rewrite that keeps keys has rows under the same keys. -/
theorem Table.has_modify {ρ κ μ : Type} [DecidableEq κ] [DecidableEq μ] {key : ρ → κ} {name : ρ → μ}
    {rows : List ρ} {k : κ} {change : ρ → ρ} (keeps : ∀ row, name (change row) = name row) (m : μ) :
    has name (modify key k change rows) m = has name rows m :=
  has_congr (map_modify change name fun row _ => keeps row) m

namespace Tables.Consistent

variable {t : Tables}

/-- A new task under a new identifier. -/
theorem addTask (valid : t.Consistent) {task : PlanTask} (storable : task.Storable t)
    (fresh : ∀ row ∈ t.planTasks, row.id ≠ task.id) :
    Tables.Consistent { t with planTasks := t.planTasks ++ [task] } := by
  obtain ⟨clients, users, assignments, pairs, tasks, ids, notes, events, proposals⟩ := valid
  refine ⟨clients, users, assignments, pairs, ?_, ?_, ?_, events, proposals⟩
  · intro row inside
    obtain old | new := List.mem_append.mp inside
    · exact tasks row old
    · rw [List.mem_singleton.mp new]
      exact storable
  · rw [List.map_append, List.nodup_append]
    refine ⟨ids, List.nodup_singleton _, ?_⟩
    intro a old b new same
    obtain ⟨row, member, rfl⟩ := List.mem_map.mp old
    rw [List.map_cons, List.map_nil, List.mem_singleton] at new
    exact fresh row member (same.trans new)
  · intro note inside
    obtain ⟨present, author⟩ := notes note inside
    refine ⟨?_, author⟩
    rw [Table.has, List.any_append]
    exact Bool.or_eq_true_iff.mpr (.inl present)

/-- A deleted task, with its notes and links. -/
theorem removeTask (valid : t.Consistent) (taskId : Uuid) :
    Tables.Consistent { t with
      planTasks := Table.remove PlanTask.id taskId t.planTasks
      planTaskNotes := Table.remove PlanTaskNote.taskId taskId t.planTaskNotes
      planTaskAssets := Table.remove PlanTaskAsset.taskId taskId t.planTaskAssets } := by
  obtain ⟨clients, users, assignments, pairs, tasks, ids, notes, events, proposals⟩ := valid
  refine ⟨clients, users, assignments, pairs, ?_, ?_, ?_, events, proposals⟩
  · exact fun row inside => tasks row (List.mem_of_mem_filter inside)
  · exact ids.sublist (List.filter_sublist.map PlanTask.id)
  · intro note inside
    obtain ⟨member, other⟩ := List.mem_filter.mp inside
    obtain ⟨present, author⟩ := notes note member
    refine ⟨?_, author⟩
    obtain ⟨row, kept, same⟩ := List.any_eq_true.mp present
    refine List.any_eq_true.mpr ⟨row, List.mem_filter.mpr ⟨kept, ?_⟩, same⟩
    rw [decide_eq_true_eq] at same other ⊢
    exact same ▸ other

/-- A new note on a task that is there. -/
theorem addNote (valid : t.Consistent) {note : PlanTaskNote} (storable : note.Storable t) :
    Tables.Consistent { t with planTaskNotes := t.planTaskNotes ++ [note] } := by
  obtain ⟨clients, users, assignments, pairs, tasks, ids, notes, events, proposals⟩ := valid
  refine ⟨clients, users, assignments, pairs, tasks, ids, ?_, events, proposals⟩
  intro row inside
  obtain old | new := List.mem_append.mp inside
  · exact notes row old
  · rw [List.mem_singleton.mp new]
    exact storable

/-- A rewritten task that meets its constraints. -/
theorem modifyTask (valid : t.Consistent) {taskId : Uuid} {change : PlanTask → PlanTask}
    (keeps : ∀ row, (change row).id = row.id)
    (storable : ∀ row ∈ t.planTasks, row.id = taskId → (change row).Storable t) :
    (t.modifyTask taskId change).Consistent := by
  obtain ⟨clients, users, assignments, pairs, tasks, ids, notes, events, proposals⟩ := valid
  refine ⟨clients, users, assignments, pairs, ?_, ?_, ?_, events, proposals⟩
  · intro row inside
    obtain ⟨old, -⟩ | ⟨old, member, same, rfl⟩ := Table.mem_modify.mp inside
    · exact tasks row old
    · exact storable old member same
  · rw [Tables.modifyTask, Table.map_modify change PlanTask.id fun row _ => keeps row]
    exact ids
  · intro note inside
    obtain ⟨present, author⟩ := notes note inside
    exact ⟨(Table.has_modify keeps note.taskId).trans present, author⟩

/-- A rewritten client that meets its constraints. -/
theorem modifyClient (valid : t.Consistent) {clientId : Uuid} {change : Client → Client}
    (keeps : ∀ row, (change row).id = row.id)
    (storable : ∀ row ∈ t.clients, row.id = clientId → (change row).Storable) :
    (t.modifyClient clientId change).Consistent := by
  have same (id : Uuid) : Table.has Client.id (t.modifyClient clientId change).clients id =
      Table.has Client.id t.clients id := Table.has_modify keeps id
  obtain ⟨clients, users, assignments, pairs, tasks, ids, notes, events, proposals⟩ := valid
  refine ⟨?_, users, ?_, pairs, ?_, ids, notes, ?_, proposals⟩
  · intro row inside
    obtain ⟨old, -⟩ | ⟨old, member, named, rfl⟩ := Table.mem_modify.mp inside
    · exact clients row old
    · exact storable old member named
  · intro row inside
    obtain ⟨client, others⟩ := assignments row inside
    exact ⟨(same row.clientId).trans client, others⟩
  · intro row inside
    obtain ⟨title, length, category, status, priority, archived, client, others⟩ := tasks row inside
    exact ⟨title, length, category, status, priority, archived, (same row.clientId).trans client,
      others⟩
  · intro row inside
    obtain ⟨title, client, others⟩ := events row inside
    exact ⟨title, (same row.clientId).trans client, others⟩

/-- A rewritten user that meets its constraints. -/
theorem modifyUser (valid : t.Consistent) {userId : Uuid} {change : User → User}
    (keeps : ∀ row, (change row).id = row.id)
    (storable : ∀ row ∈ t.users, row.id = userId → (change row).Storable) :
    (t.modifyUser userId change).Consistent := by
  have same (id : Option Uuid) : (t.modifyUser userId change).userExists id = t.userExists id := by
    cases id with
    | none => rfl
    | some id => exact Table.has_modify keeps id
  obtain ⟨clients, users, assignments, pairs, tasks, ids, notes, events, proposals⟩ := valid
  refine ⟨clients, ?_, ?_, pairs, ?_, ids, ?_, ?_, proposals⟩
  · intro row inside
    obtain ⟨old, -⟩ | ⟨old, member, named, rfl⟩ := Table.mem_modify.mp inside
    · exact users row old
    · exact storable old member named
  · intro row inside
    obtain ⟨client, assignee, assigner⟩ := assignments row inside
    exact ⟨client, (same _).trans assignee, (same _).trans assigner⟩
  · intro row inside
    obtain ⟨title, length, category, status, priority, archived, client, assignee, creator, event⟩ :=
      tasks row inside
    exact ⟨title, length, category, status, priority, archived, client, (same _).trans assignee,
      (same _).trans creator, event⟩
  · intro row inside
    obtain ⟨task, author⟩ := notes row inside
    exact ⟨task, (same _).trans author⟩
  · intro row inside
    obtain ⟨title, client, approver, creator, post, activity⟩ := events row inside
    exact ⟨title, client, (same _).trans approver, (same _).trans creator, post,
      fun line listed => (same _).trans (activity line listed)⟩

/-- A new assignment of a pair that has none. -/
theorem addAssignment (valid : t.Consistent) {row : ClientAssignment} (storable : row.Storable t)
    (fresh : t.getAssignment row.clientId row.userId = none) :
    Tables.Consistent { t with assignments := t.assignments ++ [row] } := by
  obtain ⟨clients, users, assignments, pairs, tasks, ids, notes, events, proposals⟩ := valid
  refine ⟨clients, users, ?_, ?_, tasks, ids, notes, events, proposals⟩
  · intro other inside
    obtain old | new := List.mem_append.mp inside
    · exact assignments other old
    · rw [List.mem_singleton.mp new]
      exact storable
  · rw [List.map_append, List.nodup_append]
    refine ⟨pairs, List.nodup_singleton _, ?_⟩
    intro a old b new same
    obtain ⟨other, member, rfl⟩ := List.mem_map.mp old
    rw [List.map_cons, List.map_nil, List.mem_singleton] at new
    have absent := List.find?_eq_none.mp fresh other member
    exact absent (decide_eq_true (same.trans new))

/-- Rewritten capabilities of an assignment. -/
theorem modifyAssignment (valid : t.Consistent) {pair : Uuid × Uuid}
    {change : ClientAssignment → ClientAssignment}
    (keeps : ∀ row, (change row).pair = row.pair ∧ (change row).assignedBy = row.assignedBy) :
    Tables.Consistent { t with
      assignments := Table.modify ClientAssignment.pair pair change t.assignments } := by
  obtain ⟨clients, users, assignments, pairs, tasks, ids, notes, events, proposals⟩ := valid
  refine ⟨clients, users, ?_, ?_, tasks, ids, notes, events, proposals⟩
  · intro row inside
    obtain ⟨old, -⟩ | ⟨old, member, -, rfl⟩ := Table.mem_modify.mp inside
    · exact assignments row old
    · obtain ⟨client, assignee, assigner⟩ := assignments old member
      have pair := (keeps old).1
      have sameClient : (change old).clientId = old.clientId := congrArg Prod.fst pair
      have sameUser : (change old).userId = old.userId := congrArg Prod.snd pair
      exact ⟨sameClient ▸ client, sameUser ▸ assignee, (keeps old).2 ▸ assigner⟩
  · rw [Table.map_modify change ClientAssignment.pair fun row _ => (keeps row).1]
    exact pairs

/-- A deleted assignment. -/
theorem removeAssignment (valid : t.Consistent) (pair : Uuid × Uuid) :
    Tables.Consistent { t with
      assignments := Table.remove ClientAssignment.pair pair t.assignments } := by
  obtain ⟨clients, users, assignments, pairs, tasks, ids, notes, events, proposals⟩ := valid
  refine ⟨clients, users, ?_, ?_, tasks, ids, notes, events, proposals⟩
  · exact fun row inside => assignments row (List.mem_of_mem_filter inside)
  · exact pairs.sublist (List.filter_sublist.map ClientAssignment.pair)

end Tables.Consistent

end MarketingOS
