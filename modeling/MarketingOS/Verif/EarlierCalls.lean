import MarketingOS.Verif.StagedWrites

/-!
# After the earlier calls of a proposal

The calls of a proposal are staged on the same tables and executed one after the other. What the
earlier ones leave of the tables of the staging is an invariant of the execution: a call that fits
them goes through and leaves it, and a call that does not fit them stops.
-/
namespace MarketingOS.ProposalService

variable {env : Environment}

/-- The identifiers drawn for the new rows are new. -/
structure FreshIds (t : Tables) (ticks : Nat → Tick) (count : Nat) : Prop where
  unused : ∀ i < count, ∀ task ∈ t.planTasks, task.id ≠ (ticks i).rowId
  distinct : ∀ i < count, ∀ j < i, (ticks j).rowId ≠ (ticks i).rowId

/-! ## What earlier calls leave -/

/-- What earlier calls leave of the tasks they were staged on. -/
structure TasksAfter (staged : Tables) (ticks : Nat → Tick) (clientId : Uuid)
    (before : List (StageCall env)) (t : Tables) : Prop where
  deleted : ∀ taskId, .planTaskDelete taskId ∈ before →
    (staged.getTask clientId taskId).isSome ∧ t.getTask clientId taskId = none
  kept : ∀ taskId task, staged.getTask clientId taskId = some task →
    .planTaskDelete taskId ∉ before → ∃ row, t.getTask clientId taskId = some row ∧
      row.ranges = (edited before taskId task).ranges
  drawn : ∀ row ∈ t.planTasks, (∃ task ∈ staged.planTasks, task.id = row.id) ∨
    ∃ i < before.length, row.id = (ticks i).rowId

/-- What earlier calls leave of the assignments they were staged on. -/
structure AssignmentsAfter (staged : Tables) (clientId : Uuid) (before : List (StageCall env))
    (t : Tables) : Prop where
  removed : ∀ target, .assignmentUnassign target ∈ before →
    (staged.getAssignment clientId target).isSome ∧ t.getAssignment clientId target = none
  stays : ∀ target, (staged.getAssignment clientId target).isSome →
    .assignmentUnassign target ∉ before → (t.getAssignment clientId target).isSome
  taken : ∀ target caps, .assignmentAssign target caps ∈ before →
    staged.getAssignment clientId target = none ∧ (t.getAssignment clientId target).isSome
  free : ∀ target, staged.getAssignment clientId target = none →
    (∀ caps, .assignmentAssign target caps ∉ before) → t.getAssignment clientId target = none

/-- What earlier calls leave of the tables they were staged on. -/
structure After (staged : Tables) (ticks : Nat → Tick) (clientId : Uuid)
    (before : List (StageCall env)) (t : Tables) : Prop where
  valid : t.Consistent
  client : (t.getClient clientId).isSome
  users : ∀ userId, (t.getUser userId).map User.email = (staged.getUser userId).map User.email
  tasks : TasksAfter staged ticks clientId before t
  assignments : AssignmentsAfter staged clientId before t

variable {staged t t' : Tables} {ticks : Nat → Tick} {clientId taskId target : Uuid}
  {before : List (StageCall env)} {call : StageCall env}

/-- A call that neither updates nor deletes a task. -/
structure KeepsTasks (call : StageCall env) : Prop where
  deletes : ∀ taskId, .planTaskDelete taskId ≠ call
  updates : ∀ taskId data, call ≠ .planTaskUpdate taskId data

/-- A call that neither adds nor removes an assignment. -/
structure KeepsAssignments (call : StageCall env) : Prop where
  assigns : ∀ target caps, .assignmentAssign target caps ≠ call
  unassigns : ∀ target, .assignmentUnassign target ≠ call

/-- Earlier calls and one more of another kind. -/
theorem mem_of_mem_concat {sought : StageCall env} (inside : sought ∈ before ++ [call])
    (other : sought ≠ call) : sought ∈ before := by
  rcases List.mem_append.mp inside with early | last
  · exact early
  · exact absurd (List.mem_singleton.mp last) other

/-- A call that updates no task leaves the updates as they are. -/
theorem edited_concat (other : ∀ taskId data, call ≠ .planTaskUpdate taskId data) (taskId : Uuid)
    (task : PlanTask) : edited (before ++ [call]) taskId task = edited before taskId task := by
  have none : editOf taskId call = none := by
    cases call with
    | planTaskUpdate sought data => exact absurd rfl (other sought data)
    | _ => rfl
  simp [edited, none]

/-- An update of another task leaves the updates of a task as they are. -/
theorem edited_concat_other {other : Uuid} (apart : other ≠ taskId) (data : PlanTaskUpdate)
    (task : PlanTask) :
    edited (before ++ [.planTaskUpdate other data]) taskId task = edited before taskId task := by
  simp [edited, editOf, apart]

/-- An update of a task is the last one. -/
theorem edited_concat_same (data : PlanTaskUpdate) (task : PlanTask) :
    edited (before ++ [.planTaskUpdate taskId data]) taskId task =
      data.apply (edited before taskId task) := by
  simp [edited, editOf]

/-- The ranges of an updated task come from the ranges of the task. -/
theorem ranges_apply {data : PlanTaskUpdate} {row other : PlanTask}
    (same : row.ranges = other.ranges) : (data.apply row).ranges = (data.apply other).ranges := by
  simp only [PlanTask.ranges, Prod.mk.injEq] at same
  obtain ⟨start, due, first, last⟩ := same
  simp only [PlanTask.ranges, PlanTaskUpdate.apply, start, due, first, last]

/-- The checks of an update read the ranges of the task only. -/
theorem checkMerged_of_ranges {data : PlanTaskUpdate} {row other : PlanTask}
    (same : row.ranges = other.ranges) :
    PlanService.checkMerged data row = PlanService.checkMerged data other := by
  simp only [PlanTask.ranges, Prod.mk.injEq] at same
  obtain ⟨start, due, first, last⟩ := same
  simp only [PlanService.checkMerged, start, due, first, last]

namespace TasksAfter

/-- A call that keeps the tasks and writes other rows. -/
theorem of_same (after : TasksAfter staged ticks clientId before t) (keeps : KeepsTasks call)
    (same : t'.planTasks = t.planTasks) :
    TasksAfter staged ticks clientId (before ++ [call]) t' := by
  have lookup (taskId : Uuid) : t'.getTask clientId taskId = t.getTask clientId taskId := by
    rw [Tables.getTask, same]
    rfl
  constructor
  · intro taskId inside
    rw [lookup]
    exact after.deleted taskId (mem_of_mem_concat inside (keeps.deletes taskId))
  · intro taskId task found absent
    rw [lookup, edited_concat keeps.updates]
    exact after.kept taskId task found fun early => absent (List.mem_append_left _ early)
  · intro row inside
    rw [same] at inside
    refine (after.drawn row inside).imp_right ?_
    rintro ⟨i, bound, named⟩
    exact ⟨i, by rw [List.length_append]; exact Nat.lt_add_right _ bound, named⟩

/-- A new task under the identifier that was drawn for it. -/
theorem add (after : TasksAfter staged ticks clientId before t) (keeps : KeepsTasks call)
    {new : PlanTask} (rows : t'.planTasks = t.planTasks ++ [new])
    (named : new.id = (ticks before.length).rowId)
    (unused : ∀ task ∈ staged.planTasks, task.id ≠ (ticks before.length).rowId) :
    TasksAfter staged ticks clientId (before ++ [call]) t' := by
  have lookup {taskId : Uuid} (known : (staged.getTask clientId taskId).isSome) :
      t'.getTask clientId taskId = t.getTask clientId taskId := by
    obtain ⟨task, found⟩ := Option.isSome_iff_exists.mp known
    have own : task.id = taskId := congrArg Prod.fst (Table.get_key found)
    have apart : ¬new.scoped = (taskId, clientId) := by
      intro same
      have equal : new.id = taskId := congrArg Prod.fst same
      exact unused task (Table.get_mem found) (own.trans (equal.symm.trans named))
    simp [Tables.getTask, Table.get, rows, List.find?_append, apart]
  constructor
  · intro taskId inside
    have old := after.deleted taskId (mem_of_mem_concat inside (keeps.deletes taskId))
    rw [lookup old.1]
    exact old
  · intro taskId task found absent
    rw [lookup (Option.isSome_of_eq_some found), edited_concat keeps.updates]
    exact after.kept taskId task found fun early => absent (List.mem_append_left _ early)
  · intro row inside
    rw [rows] at inside
    rw [List.length_append, List.length_singleton]
    rcases List.mem_append.mp inside with old | last
    · refine (after.drawn row old).imp_right ?_
      rintro ⟨i, bound, same⟩
      exact ⟨i, Nat.lt_add_right 1 bound, same⟩
    · rw [List.mem_singleton.mp last]
      exact .inr ⟨before.length, Nat.lt_add_one _, named⟩

/-- An update of a task. -/
theorem update (after : TasksAfter staged ticks clientId before t) {data : PlanTaskUpdate}
    {change : PlanTask → PlanTask}
    (rows : t'.planTasks = Table.modify PlanTask.id taskId change t.planTasks)
    (keeps : ∀ row, (change row).scoped = row.scoped)
    (writes : ∀ row, (change row).ranges = (data.apply row).ranges) :
    TasksAfter staged ticks clientId (before ++ [.planTaskUpdate taskId data]) t' := by
  have lookup (sought : Uuid) : t'.getTask clientId sought =
      (t.getTask clientId sought).map fun row => if row.id = taskId then change row else row := by
    rw [Tables.getTask, rows, Table.get_modify_of_keeps keeps]
    rfl
  constructor
  · intro sought inside
    have old := after.deleted sought (mem_of_mem_concat inside (by simp))
    rw [lookup, old.2]
    exact ⟨old.1, rfl⟩
  · intro sought task found absent
    obtain ⟨row, present, same⟩ :=
      after.kept sought task found fun early => absent (List.mem_append_left _ early)
    have own : row.id = sought := congrArg Prod.fst (Table.get_key present)
    refine ⟨_, (lookup sought).trans (congrArg _ present), ?_⟩
    dsimp only
    by_cases hit : sought = taskId
    · subst hit
      rw [if_pos own, edited_concat_same, writes]
      exact ranges_apply same
    · rw [if_neg (own ▸ hit), edited_concat_other fun h => hit h.symm]
      exact same
  · intro row inside
    rw [rows] at inside
    rw [List.length_append, List.length_singleton]
    have named : ∃ old ∈ t.planTasks, old.id = row.id := by
      obtain ⟨old, -⟩ | ⟨old, member, -, rfl⟩ := Table.mem_modify.mp inside
      · exact ⟨row, old, rfl⟩
      · exact ⟨old, member, (congrArg Prod.fst (keeps old)).symm⟩
    obtain ⟨old, member, same⟩ := named
    rw [← same]
    refine (after.drawn old member).imp_right ?_
    rintro ⟨i, bound, drawn⟩
    exact ⟨i, Nat.lt_add_right 1 bound, drawn⟩

/-- A deletion of a task. -/
theorem delete (after : TasksAfter staged ticks clientId before t)
    (rows : t'.planTasks = Table.remove PlanTask.id taskId t.planTasks)
    (known : (staged.getTask clientId taskId).isSome) :
    TasksAfter staged ticks clientId (before ++ [.planTaskDelete taskId]) t' := by
  have gone : t'.getTask clientId taskId = none := by
    rw [Tables.getTask, rows]
    refine List.find?_eq_none.mpr ?_
    intro row inside
    have other := (List.mem_filter.mp inside).2
    rw [decide_eq_true_eq] at other ⊢
    exact fun same => other (congrArg Prod.fst same)
  have lookup {sought : Uuid} (apart : sought ≠ taskId) :
      t'.getTask clientId sought = t.getTask clientId sought := by
    rw [Tables.getTask, rows, Table.get, Table.remove, List.find?_filter]
    congr 1
    funext row
    by_cases hit : row.scoped = (sought, clientId)
    · have own : row.id = sought := congrArg Prod.fst hit
      simp [hit, own, apart]
    · simp [hit]
  constructor
  · intro sought inside
    by_cases hit : sought = taskId
    · subst hit
      exact ⟨known, gone⟩
    · rw [lookup hit]
      exact after.deleted sought (mem_of_mem_concat inside (by simp [hit]))
  · intro sought task found absent
    have apart : sought ≠ taskId := by
      rintro rfl
      exact absent (List.mem_append_right _ List.mem_cons_self)
    rw [lookup apart, edited_concat (by simp)]
    exact after.kept sought task found fun early => absent (List.mem_append_left _ early)
  · intro row inside
    rw [rows] at inside
    rw [List.length_append, List.length_singleton]
    refine (after.drawn row (List.mem_of_mem_filter inside)).imp_right ?_
    rintro ⟨i, bound, named⟩
    exact ⟨i, Nat.lt_add_right 1 bound, named⟩

end TasksAfter

namespace AssignmentsAfter

/-- A call that keeps who is assigned. -/
theorem of_same (after : AssignmentsAfter staged clientId before t)
    (keeps : KeepsAssignments call)
    (same : ∀ target, (t'.getAssignment clientId target).isSome =
      (t.getAssignment clientId target).isSome) :
    AssignmentsAfter staged clientId (before ++ [call]) t' := by
  have absent {target : Uuid} (missing : t.getAssignment clientId target = none) :
      t'.getAssignment clientId target = none := by
    rw [← Option.isNone_iff_eq_none, ← Option.not_isSome, same, missing]
    rfl
  constructor
  · intro target inside
    obtain ⟨known, gone⟩ := after.removed target (mem_of_mem_concat inside (keeps.unassigns target))
    exact ⟨known, absent gone⟩
  · intro target known absent
    rw [same]
    exact after.stays target known fun early => absent (List.mem_append_left _ early)
  · intro target caps inside
    rw [same]
    exact after.taken target caps (mem_of_mem_concat inside (keeps.assigns target caps))
  · intro target unknown unused
    exact absent (after.free target unknown fun caps early =>
      unused caps (List.mem_append_left _ early))

/-- An assignment. -/
theorem assign (after : AssignmentsAfter staged clientId before t)
    {caps : Option (List ClientCapability)} {new : ClientAssignment}
    (rows : t'.assignments = t.assignments ++ [new]) (named : new.pair = (clientId, target))
    (unknown : staged.getAssignment clientId target = none) :
    AssignmentsAfter staged clientId (before ++ [.assignmentAssign target caps]) t' := by
  have lookup (sought : Uuid) : t'.getAssignment clientId sought =
      (t.getAssignment clientId sought).or (if sought = target then some new else none) := by
    rw [Tables.getAssignment, rows, Table.get, List.find?_append]
    congr 1
    by_cases hit : sought = target
    · simp [hit, named]
    · have apart : ¬target = sought := fun h => hit h.symm
      simp [hit, named, apart]
  constructor
  · intro sought inside
    have old := after.removed sought (mem_of_mem_concat inside (by simp))
    have apart : sought ≠ target := by
      rintro rfl
      rw [unknown] at old
      exact absurd old.1 Bool.false_ne_true
    rw [lookup, if_neg apart, Option.or_none]
    exact old
  · intro sought known absent
    have old := after.stays sought known fun early => absent (List.mem_append_left _ early)
    rw [lookup, Option.isSome_or, old, Bool.true_or]
  · intro sought other inside
    rw [lookup, Option.isSome_or]
    rcases List.mem_append.mp inside with early | last
    · obtain ⟨free, there⟩ := after.taken sought other early
      exact ⟨free, by rw [there, Bool.true_or]⟩
    · cases List.mem_singleton.mp last
      exact ⟨unknown, by simp⟩
  · intro sought free unused
    have apart : sought ≠ target := by
      rintro rfl
      exact unused caps (List.mem_append_right _ List.mem_cons_self)
    rw [lookup, if_neg apart, Option.or_none]
    exact after.free sought free fun other early => unused other (List.mem_append_left _ early)

/-- An unassignment. -/
theorem unassign (after : AssignmentsAfter staged clientId before t)
    (rows : t'.assignments =
      Table.remove ClientAssignment.pair (clientId, target) t.assignments)
    (known : (staged.getAssignment clientId target).isSome) :
    AssignmentsAfter staged clientId (before ++ [.assignmentUnassign target]) t' := by
  have gone : t'.getAssignment clientId target = none := by
    rw [Tables.getAssignment, rows]
    exact Table.get_remove_same _ _
  have lookup {sought : Uuid} (apart : sought ≠ target) :
      t'.getAssignment clientId sought = t.getAssignment clientId sought := by
    rw [Tables.getAssignment, rows]
    exact Table.get_remove_other _ fun same => apart (congrArg Prod.snd same)
  constructor
  · intro sought inside
    by_cases hit : sought = target
    · rw [hit]
      exact ⟨known, gone⟩
    · rw [lookup hit]
      exact after.removed sought (mem_of_mem_concat inside (by simp [hit]))
  · intro sought there absent
    have apart : sought ≠ target := by
      rintro rfl
      exact absent (List.mem_append_right _ List.mem_cons_self)
    rw [lookup apart]
    exact after.stays sought there fun early => absent (List.mem_append_left _ early)
  · intro sought caps inside
    have old := after.taken sought caps (mem_of_mem_concat inside (by simp))
    have apart : sought ≠ target := by
      rintro rfl
      rw [old.1] at known
      exact absurd known Bool.false_ne_true
    rw [lookup apart]
    exact old
  · intro sought free unused
    by_cases hit : sought = target
    · rw [hit]
      exact gone
    · rw [lookup hit]
      exact after.free sought free fun caps early => unused caps (List.mem_append_left _ early)

end AssignmentsAfter

/-- Executing no call leaves the tables, whatever proposals there are. -/
theorem after_nil {proposals : List ChangeProposal} (valid : { staged with proposals }.Consistent)
    (client : (staged.getClient clientId).isSome) :
    After staged ticks clientId ([] : List (StageCall env)) { staged with proposals } where
  valid := valid
  client := client
  users _ := rfl
  tasks := {
    deleted := fun _ inside => by cases inside
    kept := fun _ task found _ => ⟨task, found, rfl⟩
    drawn := fun row inside => .inl ⟨row, inside, rfl⟩ }
  assignments := {
    removed := fun _ inside => by cases inside
    stays := fun _ known _ => known
    taken := fun _ _ inside => by cases inside
    free := fun _ unknown _ => unknown }

/-! ## One call after the earlier ones -/

section Call

variable {user : User} {op : ProposedOperation}

/-- A call can be executed after the earlier ones, and leaves what it should. -/
def Goes (staged : Tables) (ticks : Nat → Tick) (clientId : Uuid) (user : User)
    (before : List (StageCall env)) (t : Tables) (op : ProposedOperation) (call : StageCall env) :
    Prop :=
  ∃ result, replay env (ticks before.length) t clientId user op call = .ok result ∧
    fits 200 result.label ∧ After staged ticks clientId (before ++ [call]) result.tables

/-- A flush of tables that meet every constraint changes nothing. -/
theorem flush_of_consistent (valid : t.Consistent) : flush t = .ok t := if_pos valid

/-- A user who is there at staging is there after the earlier calls. -/
theorem After.userExists (after : After staged ticks clientId before t) (userId : Option Uuid) :
    t.userExists userId = staged.userExists userId := by
  cases userId with
  | none => rfl
  | some userId =>
    rw [Bool.eq_iff_iff, Tables.userExists_iff, Tables.userExists_iff,
      ← Option.isSome_map (f := User.email), after.users, Option.isSome_map]

/-- The client is there after the earlier calls. -/
theorem After.hasClient (after : After staged ticks clientId before t) :
    Table.has Client.id t.clients clientId = true :=
  Table.has_iff_get.mpr (Option.isSome_iff_exists.mp after.client)

/-- The identifier drawn for a call is new after the earlier ones. -/
theorem After.fresh (after : After staged ticks clientId before t) {count : Nat}
    (ids : FreshIds staged ticks count) (bound : before.length < count) :
    ∀ row ∈ t.planTasks, row.id ≠ (ticks before.length).rowId := by
  intro row inside
  rcases after.tasks.drawn row inside with ⟨task, member, same⟩ | ⟨i, earlier, named⟩
  · rw [← same]
    exact ids.unused before.length bound task member
  · rw [named]
    exact ids.distinct before.length bound i earlier

/-- The rows of earlier calls meet their constraints. -/
theorem After.storable_task (after : After staged ticks clientId before t) {row : PlanTask}
    (found : t.getTask clientId taskId = some row) : row.Storable t :=
  after.valid.2.2.2.2.1 row (Table.get_mem found)

/-- A task that was not deleted by the earlier calls. -/
theorem After.task (after : After staged ticks clientId before t)
    (known : (staged.getTask clientId taskId).isSome) (fit : .planTaskDelete taskId ∉ before) :
    ∃ task row, staged.getTask clientId taskId = some task ∧ t.getTask clientId taskId = some row ∧
      row.ranges = (edited before taskId task).ranges := by
  obtain ⟨task, found⟩ := Option.isSome_iff_exists.mp known
  obtain ⟨row, present, same⟩ := after.tasks.kept taskId task found fit
  exact ⟨task, row, found, present, same⟩

/-- A task that was deleted by the earlier calls. -/
theorem After.no_task (after : After staged ticks clientId before t)
    (gone : .planTaskDelete taskId ∈ before) :
    PlanService.getTask t clientId taskId = notFound "Task not found." := by
  rw [PlanService.getTask, (after.tasks.deleted taskId gone).2]

/-- A creation goes. -/
theorem goes_create {count : Nat} {data : PlanTaskCreate}
    (after : After staged ticks clientId before t) (ids : FreshIds staged ticks count)
    (bound : before.length < count)
    (ready : Ready staged clientId user (.planTaskCreate data : StageCall env)) :
    Goes staged ticks clientId user before t op (.planTaskCreate data) := by
  have storable := PlanService.storable_newTask (ticks before.length) after.hasClient
    ((after.userExists _).trans ready.1) ((after.userExists _).trans ready.2)
  have valid := after.valid.addTask storable (after.fresh ids bound)
  obtain ⟨applied, done⟩ : ∃ applied, PlanService.applyCreateTask (ticks before.length) t clientId
      data user.id = .ok applied := by
    simp only [PlanService.applyCreateTask, flush_of_consistent valid, Outcome.ok_bind]
    exact ⟨_, rfl⟩
  obtain ⟨row, tables, -⟩ := PlanService.applyCreateTask_ok done
  refine ⟨executed op _ _ applied, congrArg (Except.map _) done, ?_, ?_⟩
  · show fits 200 applied.row.title = true
    rw [row]
    exact storable.2.1
  · show After _ _ _ _ applied.tables
    rw [tables]
    exact {
      valid := valid
      client := after.client
      users := after.users
      tasks := after.tasks.add ⟨by simp, by simp⟩ rfl rfl (ids.unused _ bound)
      assignments := after.assignments.of_same ⟨by simp, by simp⟩ fun _ => rfl }

/-- A duplication goes when its task was not deleted. -/
theorem goes_duplicate {count : Nat} (after : After staged ticks clientId before t)
    (ids : FreshIds staged ticks count) (bound : before.length < count)
    (ready : Ready staged clientId user (.planTaskDuplicate taskId : StageCall env))
    (fit : .planTaskDelete taskId ∉ before) :
    Goes staged ticks clientId user before t op (.planTaskDuplicate taskId) := by
  obtain ⟨-, source, -, present, -⟩ := after.task ready.1 fit
  have storable := PlanService.storable_copyOf (ticks before.length) (after.storable_task present)
    after.hasClient ((after.userExists _).trans ready.2)
  have valid := after.valid.addTask storable (after.fresh ids bound)
  obtain ⟨applied, done, row⟩ : ∃ applied, PlanService.applyDuplicateTask (ticks before.length) t
      clientId taskId user.id = .ok applied ∧
      applied.row = PlanService.copyOf (ticks before.length) clientId source user.id := by
    simp only [PlanService.applyDuplicateTask, PlanService.getTask_ok.mpr present,
      flush_of_consistent valid, Outcome.ok_bind]
    exact ⟨_, rfl, rfl⟩
  obtain ⟨other, again, tables⟩ := PlanService.applyDuplicateTask_ok done
  obtain rfl := Option.some.inj (present.symm.trans again)
  refine ⟨executed op _ _ applied, congrArg (Except.map _) done, ?_, ?_⟩
  · show fits 200 applied.row.title = true
    rw [row]
    exact fits_clip 200 _
  · show After _ _ _ _ applied.tables
    rw [tables]
    exact {
      valid := valid
      client := after.client
      users := after.users
      tasks := after.tasks.add ⟨by simp, by simp⟩ rfl rfl (ids.unused _ bound)
      assignments := after.assignments.of_same ⟨by simp, by simp⟩ fun _ => rfl }

/-- An updated task keeps its identifier and its client, and its ranges are those of the update. -/
theorem touch_apply (now : Timestamp) (data : PlanTaskUpdate) (row : PlanTask) :
    (PlanTask.touch now row (data.apply row)).scoped = row.scoped ∧
      (PlanTask.touch now row (data.apply row)).ranges = (data.apply row).ranges := by
  refine ⟨?_, PlanTask.ranges_touch now row (data.apply row)⟩
  unfold PlanTask.touch
  split <;> rfl

/-- An update goes when it fits. -/
theorem goes_update {data : PlanTaskUpdate} (after : After staged ticks clientId before t)
    (ready : Ready staged clientId user (.planTaskUpdate taskId data : StageCall env))
    (fit : Fits staged clientId before (.planTaskUpdate taskId data)) :
    Goes staged ticks clientId user before t op (.planTaskUpdate taskId data) := by
  obtain ⟨undeleted, ordered, storable⟩ := fit
  obtain ⟨task, row, found, present, same⟩ := after.task ready undeleted
  have passed : PlanService.checkMerged data row = .ok () :=
    (checkMerged_of_ranges same).trans (ordered task found)
  have writes : data.Storable t := by
    obtain ⟨title, category, status, priority, archived, assignee⟩ := storable
    refine ⟨title, category, status, priority, archived, fun user sent => ?_⟩
    rw [← Tables.userExists_iff, after.userExists, Tables.userExists_iff]
    exact assignee user sent
  obtain ⟨applied, done⟩ : ∃ applied, PlanService.applyUpdateTask (ticks before.length) t clientId
      taskId data = .ok applied := by
    simp only [PlanService.applyUpdateTask, PlanService.getTask_ok.mpr present, passed,
      Outcome.ok_bind]
    exact ⟨_, rfl⟩
  obtain ⟨other, again, -, changed, tables⟩ := PlanService.applyUpdateTask_ok done
  obtain rfl := Option.some.inj (present.symm.trans again)
  have stored (old : PlanTask) (inside : old ∈ t.planTasks) :
      (PlanTask.touch (ticks before.length).now old (data.apply old)).Storable t :=
    PlanTask.storable_touch.mpr
      ((PlanTaskUpdate.storable_apply_iff (after.valid.2.2.2.2.1 old inside)).mpr writes)
  refine ⟨executed op _ _ applied, congrArg (Except.map _) done, ?_, ?_⟩
  · show fits 200 applied.row.title = true
    rw [changed]
    exact (stored row (Table.get_mem present)).2.1
  · show After _ _ _ _ applied.tables
    rw [tables]
    exact {
      valid := after.valid.modifyTask
        (fun old => congrArg Prod.fst (touch_apply _ data old).1) fun old inside _ =>
          stored old inside
      client := after.client
      users := after.users
      tasks := after.tasks.update rfl (fun old => (touch_apply _ data old).1) fun old =>
        (touch_apply _ data old).2
      assignments := after.assignments.of_same ⟨by simp, by simp⟩ fun _ => rfl }

/-- A deletion goes when its task was not deleted. -/
theorem goes_delete (after : After staged ticks clientId before t)
    (ready : Ready staged clientId user (.planTaskDelete taskId : StageCall env))
    (fit : .planTaskDelete taskId ∉ before) :
    Goes staged ticks clientId user before t op (.planTaskDelete taskId) := by
  obtain ⟨-, row, -, present, -⟩ := after.task ready fit
  have valid := after.valid.removeTask taskId
  obtain ⟨applied, done⟩ : ∃ applied, PlanService.applyDeleteTask t clientId taskId =
      .ok applied := by
    simp only [PlanService.applyDeleteTask, PlanService.getTask_ok.mpr present,
      flush_of_consistent valid, Outcome.ok_bind]
    exact ⟨_, rfl⟩
  obtain ⟨again, tables⟩ := PlanService.applyDeleteTask_ok done
  refine ⟨executed op _ _ applied, congrArg (Except.map _) done, ?_, ?_⟩
  · exact (after.storable_task again).2.1
  · show After _ _ _ _ applied.tables
    rw [tables]
    exact {
      valid := valid
      client := after.client
      users := after.users
      tasks := after.tasks.delete rfl ready
      assignments := after.assignments.of_same ⟨by simp, by simp⟩ fun _ => rfl }

/-- A note goes when its task was not deleted. -/
theorem goes_addNote {data : PlanTaskNoteCreate} (after : After staged ticks clientId before t)
    (ready : Ready staged clientId user (.planTaskAddNote taskId data : StageCall env))
    (fit : .planTaskDelete taskId ∉ before) :
    Goes staged ticks clientId user before t op (.planTaskAddNote taskId data) := by
  obtain ⟨-, row, -, present, -⟩ := after.task ready.1 fit
  have storable : (PlanTaskNote.mk (ticks before.length).rowId row.id (some user.id) data.body.val
      (ticks before.length).now).Storable t := by
    refine ⟨?_, (after.userExists _).trans ready.2⟩
    exact List.any_eq_true.mpr ⟨row, Table.get_mem present, decide_eq_true rfl⟩
  have valid := after.valid.addNote storable
  obtain ⟨⟨note, task, tables⟩, done⟩ : ∃ result, PlanService.applyAddNote (ticks before.length) t
      clientId taskId data user.id = .ok result := by
    simp only [PlanService.applyAddNote, PlanService.getTask_ok.mpr present, Outcome.ok_bind,
      flush_of_consistent valid]
    exact ⟨_, rfl⟩
  obtain ⟨rfl, again, rfl⟩ := PlanService.applyAddNote_ok done
  obtain rfl := Option.some.inj (present.symm.trans again)
  refine ⟨_, congrArg (Except.map _) done, (after.storable_task present).2.1, ?_⟩
  exact {
    valid := valid
    client := after.client
    users := after.users
    tasks := after.tasks.of_same ⟨by simp, by simp⟩ rfl
    assignments := after.assignments.of_same ⟨by simp, by simp⟩ fun _ => rfl }

/-- A user who is there at staging, with the same address after the earlier calls. -/
theorem After.userRow (after : After staged ticks clientId before t)
    (known : (staged.getUser target).isSome) :
    ∃ source row, staged.getUser target = some source ∧ t.getUser target = some row ∧
      row.email = source.email := by
  obtain ⟨source, found⟩ := Option.isSome_iff_exists.mp known
  have same := after.users target
  rw [found, Option.map_some] at same
  obtain ⟨row, present, email⟩ := Option.map_eq_some_iff.mp same
  exact ⟨source, row, found, present, email⟩

/-- An assignment goes when the user was not assigned by the earlier calls. -/
theorem goes_assign {caps : Option (List ClientCapability)}
    (after : After staged ticks clientId before t)
    (ready : Ready staged clientId user (.assignmentAssign target caps : StageCall env))
    (fit : ∀ caps, .assignmentAssign target caps ∉ before) :
    Goes staged ticks clientId user before t op (.assignmentAssign target caps) := by
  obtain ⟨known, unknown, assigner⟩ := ready
  obtain ⟨-, row, -, present, -⟩ := after.userRow known
  have free := after.assignments.free target unknown fit
  have storable (capabilities : Option (List String)) :
      (ClientAssignment.mk (ticks before.length).rowId clientId target (some user.id) capabilities
        (ticks before.length).now).Storable t :=
    ⟨after.hasClient, Tables.userExists_iff.mpr (Option.isSome_of_eq_some present),
      (after.userExists _).trans assigner⟩
  have valid (capabilities : Option (List String)) :=
    after.valid.addAssignment (storable capabilities) free
  obtain ⟨⟨new, tables⟩, done⟩ : ∃ result, AssignmentService.applyAssign (ticks before.length) t
      clientId target user.id (if caps = some [] then none else caps) = .ok result := by
    obtain ⟨client, stored⟩ := Option.isSome_iff_exists.mp after.client
    simp only [AssignmentService.applyAssign, stored, present, free, Option.isNone_some,
      Option.isSome_none, Bool.false_eq_true, ↓reduceIte, flush_of_consistent (valid _),
      Outcome.ok_bind]
    exact ⟨_, rfl⟩
  obtain ⟨rfl, rfl⟩ := AssignmentService.applyAssign_ok done
  refine ⟨_, congrArg (Except.map _) done, rfl, ?_⟩
  exact {
    valid := valid _
    client := after.client
    users := after.users
    tasks := after.tasks.of_same ⟨by simp, by simp⟩ rfl
    assignments := after.assignments.assign rfl rfl unknown }

/-- A rewrite of an assignment that keeps its pair leaves who is assigned. -/
theorem isSome_getAssignment_modify {pair : Uuid × Uuid}
    {change : ClientAssignment → ClientAssignment} (keeps : ∀ row, (change row).pair = row.pair) :
    (Tables.getAssignment { t with
      assignments := Table.modify ClientAssignment.pair pair change t.assignments } clientId
      target).isSome = (t.getAssignment clientId target).isSome := by
  rw [Tables.getAssignment, Table.get_modify_of_keeps keeps, Option.isSome_map]
  rfl

/-- New capabilities go when the assignment was not removed. -/
theorem goes_setCapabilities {caps : List ClientCapability}
    (after : After staged ticks clientId before t)
    (ready : Ready staged clientId user (.assignmentSetCapabilities target caps : StageCall env))
    (fit : .assignmentUnassign target ∉ before) :
    Goes staged ticks clientId user before t op (.assignmentSetCapabilities target caps) := by
  obtain ⟨row, present⟩ := Option.isSome_iff_exists.mp (after.assignments.stays target ready fit)
  have valid : Tables.Consistent { t with
      assignments := Table.modify ClientAssignment.pair (clientId, target)
        (fun row => { row with capabilities := AssignmentService.sortedCaps (some caps) })
        t.assignments } := after.valid.modifyAssignment fun _ => ⟨rfl, rfl⟩
  obtain ⟨⟨new, tables⟩, done⟩ : ∃ result,
      AssignmentService.applySetCapabilities t clientId target caps = .ok result := by
    simp only [AssignmentService.applySetCapabilities, AssignmentService.getAssignment_ok.mpr present,
      flush_of_consistent valid, Outcome.ok_bind]
    exact ⟨_, rfl⟩
  obtain rfl := AssignmentService.applySetCapabilities_ok done
  refine ⟨_, congrArg (Except.map _) done, rfl, ?_⟩
  exact {
    valid := valid
    client := after.client
    users := after.users
    tasks := after.tasks.of_same ⟨by simp, by simp⟩ rfl
    assignments := after.assignments.of_same ⟨by simp, by simp⟩ fun _ =>
      isSome_getAssignment_modify fun _ => rfl }

/-- An unassignment goes when the assignment was not removed. -/
theorem goes_unassign (after : After staged ticks clientId before t)
    (ready : Ready staged clientId user (.assignmentUnassign target : StageCall env))
    (fit : .assignmentUnassign target ∉ before) :
    Goes staged ticks clientId user before t op (.assignmentUnassign target) := by
  obtain ⟨row, present⟩ := Option.isSome_iff_exists.mp (after.assignments.stays target ready fit)
  have valid := after.valid.removeAssignment (clientId, target)
  have done : AssignmentService.applyUnassign t clientId target = .ok { t with
      assignments := Table.remove ClientAssignment.pair (clientId, target) t.assignments } := by
    simp only [AssignmentService.applyUnassign, AssignmentService.getAssignment_ok.mpr present,
      flush_of_consistent valid, Outcome.ok_bind]
  refine ⟨_, congrArg (Except.map _) done, rfl, ?_⟩
  exact {
    valid := valid
    client := after.client
    users := after.users
    tasks := after.tasks.of_same ⟨by simp, by simp⟩ rfl
    assignments := after.assignments.unassign rfl ready }

/-- An edit of the client's row that meets its constraints. -/
theorem After.modifyClient (after : After staged ticks clientId before t)
    {change : Client → Client} (keeps : ∀ row, (change row).id = row.id)
    (storable : ∀ row, row.Storable → (change row).Storable) (intelJobs : List IntelJob)
    (tasks : KeepsTasks call) (assignments : KeepsAssignments call) :
    After staged ticks clientId (before ++ [call])
      { t.modifyClient clientId change with intelJobs } where
  valid := after.valid.modifyClient keeps fun row inside _ => storable row (after.valid.1 row inside)
  client := by
    have read : (t.modifyClient clientId change).getClient clientId = _ :=
      Table.get_modify_of_keeps keeps clientId
    show ((t.modifyClient clientId change).getClient clientId).isSome
    rw [read, Option.isSome_map]
    exact after.client
  users := after.users
  tasks := after.tasks.of_same tasks rfl
  assignments := after.assignments.of_same assignments fun _ => rfl

/-- A shorter column fits a longer one. -/
theorem fits_of_le {short long : Nat} {text : Option String} (bound : short ≤ long)
    (fit : fits short text) : fits long text := by
  cases text with
  | none => rfl
  | some text => exact decide_eq_true (Nat.le_trans (of_decide_eq_true fit) bound)

/-- A client edit goes when it fits. -/
theorem goes_updateClient {data : ClientUpdate env}
    (after : After staged ticks clientId before t) (fit : data.Storable) :
    Goes staged ticks clientId user before t op (.updateClient data) := by
  have storable (row : Client) (valid : row.Storable) :
      (Client.touch (ticks before.length).now row (data.apply row)).Storable :=
    Client.storable_touch.mpr ((ClientUpdate.storable_apply_iff valid).mpr fit)
  obtain ⟨client, present⟩ := Option.isSome_iff_exists.mp after.client
  obtain ⟨applied, done⟩ : ∃ applied, ClientService.applyUpdateClient env (ticks before.length) t
      clientId data = .ok applied := by
    simp only [ClientService.applyUpdateClient, present]
    exact ⟨_, rfl⟩
  obtain ⟨other, again, row, tables⟩ := ClientService.applyUpdateClient_ok done
  refine ⟨executed op _ _ applied, congrArg (Except.map _) done, ?_, ?_⟩
  · show fits 200 applied.row.name = true
    rw [row]
    exact fits_of_le (by decide) (storable other (after.valid.1 other (Table.get_mem again))).2.1
  · show After _ _ _ _ applied.tables
    rw [tables]
    refine after.modifyClient ?_ storable _ ⟨by simp, by simp⟩ ⟨by simp, by simp⟩
    intro row
    unfold Client.touch
    split <;> rfl

/-- A brand edit goes when it fits. -/
theorem goes_updateBrand {data : BrandUpdate} (after : After staged ticks clientId before t)
    (fit : data.Storable) :
    Goes staged ticks clientId user before t op (.updateBrand data : StageCall env) := by
  have storable (row : Client) (valid : row.Storable) :
      (Client.touch (ticks before.length).now row (data.apply row)).Storable :=
    Client.storable_touch.mpr ((BrandUpdate.storable_apply_iff valid).mpr fit)
  obtain ⟨client, present⟩ := Option.isSome_iff_exists.mp after.client
  obtain rfl : client.id = clientId := Table.get_key present
  refine ⟨executed op (fun client => some client.id) Client.name
    (OnboardingService.applyUpdateBrand env (ticks before.length) t client data),
    by simp only [replay, present], ?_, ?_⟩
  · exact fits_of_le (by decide) (storable client (after.valid.1 client (Table.get_mem present))).2.1
  · refine after.modifyClient ?_ storable _ ⟨by simp, by simp⟩ ⟨by simp, by simp⟩
    intro row
    unfold Client.touch
    split <;> rfl

/-- A user edit goes, with a label that fits. -/
theorem goes_updateUser {data : UserUpdate} (after : After staged ticks clientId before t)
    (ready : Ready staged clientId user (.updateUser target data : StageCall env))
    (label : ∀ row, staged.getUser target = some row → fits 200 (some row.email)) :
    Goes staged ticks clientId user before t op (.updateUser target data) := by
  obtain ⟨source, row, found, present, same⟩ := after.userRow ready
  have keeps (row : User) :
      (User.touch (ticks before.length).now row (data.apply row)).id = row.id ∧
        (User.touch (ticks before.length).now row (data.apply row)).email = row.email := by
    unfold User.touch
    split <;> exact ⟨rfl, rfl⟩
  obtain ⟨applied, done⟩ : ∃ applied, UserService.applyUpdateUser (ticks before.length) t
      (some target) data = .ok applied := by
    simp only [UserService.applyUpdateUser, Option.bind_some, present]
    exact ⟨_, rfl⟩
  obtain ⟨other, again, changed, tables⟩ := UserService.applyUpdateUser_ok done
  obtain rfl := Option.some.inj (present.symm.trans again)
  refine ⟨executed op _ _ applied, congrArg (Except.map _) done, ?_, ?_⟩
  · show fits 200 (some applied.row.email) = true
    rw [changed, (keeps row).2, same]
    exact label source found
  · show After _ _ _ _ applied.tables
    rw [tables]
    exact {
      valid := after.valid.modifyUser (fun row => (keeps row).1) fun row inside _ =>
        UserUpdate.storable_apply (after.valid.2.1 row inside) _
      client := after.client
      users := fun userId => by
        have read : (t.modifyUser row.id fun row =>
            User.touch (ticks before.length).now row (data.apply row)).getUser userId = _ :=
          Table.get_modify_of_keeps (fun row => (keeps row).1) userId
        rw [read, Option.map_map, ← after.users]
        congr 1
        funext user
        simp only [Function.comp_apply]
        split
        · exact (keeps user).2
        · rfl
      tasks := after.tasks.of_same ⟨by simp, by simp⟩ rfl
      assignments := after.assignments.of_same ⟨by simp, by simp⟩ fun _ => rfl }

/-- The call of an operation that was staged goes when it fits the earlier ones. -/
theorem goes_of_fits {count : Nat} {tick : Tick} {made : Staged}
    (after : After staged ticks clientId before t) (ids : FreshIds staged ticks count)
    (bound : before.length < count)
    (done : stage env tick staged clientId user call = .ok made)
    (label : fits 200 made.operation.entityLabel) (fit : Fits staged clientId before call) :
    Goes staged ticks clientId user before t op call := by
  have ready := ready_of_stage done
  cases call with
  | planTaskCreate data => exact goes_create after ids bound ready
  | planTaskUpdate taskId data => exact goes_update after ready fit
  | planTaskDelete taskId => exact goes_delete after ready fit
  | planTaskDuplicate taskId => exact goes_duplicate after ids bound ready fit
  | planTaskAddNote taskId data => exact goes_addNote after ready fit
  | assignmentAssign target caps => exact goes_assign after ready fit
  | assignmentSetCapabilities target caps => exact goes_setCapabilities after ready fit
  | assignmentUnassign target => exact goes_unassign after ready fit
  | updateClient data => exact goes_updateClient after fit
  | updateBrand data => exact goes_updateBrand after fit
  | updateUser target data =>
    refine goes_updateUser after ready fun row found => ?_
    simp only [stage, stageUpdateUser, requireUser, found, Outcome.ok_bind, Outcome.bind_ok] at done
    obtain ⟨client, -, -, -, applied, -, done⟩ := done
    obtain rfl := Except.ok.inj done
    exact label

/-- An update that does not fit the earlier calls stops. -/
theorem stops_update {data : PlanTaskUpdate} {applied : Applied PlanTask}
    (after : After staged ticks clientId before t)
    (ready : (staged.getTask clientId taskId).isSome)
    (done : PlanService.applyUpdateTask (ticks before.length) t clientId taskId data = .ok applied)
    (valid : applied.tables.Consistent) :
    Fits staged clientId before (.planTaskUpdate taskId data : StageCall env) := by
  obtain ⟨row, present, passed, -, tables⟩ := PlanService.applyUpdateTask_ok done
  have undeleted : .planTaskDelete taskId ∉ before := by
    intro gone
    rw [(after.tasks.deleted taskId gone).2] at present
    cases present
  refine ⟨undeleted, fun task found => ?_, ?_⟩
  · obtain ⟨source, other, known, again, same⟩ := after.task ready undeleted
    obtain rfl := Option.some.inj (present.symm.trans again)
    obtain rfl := Option.some.inj (known.symm.trans found)
    exact (checkMerged_of_ranges same).symm.trans passed
  · rw [tables] at valid
    have own : row.id = taskId := congrArg Prod.fst (Table.get_key present)
    have written := valid.2.2.2.2.1 (PlanTask.touch (ticks before.length).now row (data.apply row))
      (Table.mem_modify.mpr (.inr ⟨row, Table.get_mem present, own, rfl⟩))
    have writes : data.Storable t := (PlanTaskUpdate.storable_apply_iff
      (after.storable_task present)).mp (PlanTask.storable_touch.mp written)
    obtain ⟨title, category, status, priority, archived, assignee⟩ := writes
    refine ⟨title, category, status, priority, archived, fun user sent => ?_⟩
    rw [← Tables.userExists_iff, ← after.userExists, Tables.userExists_iff]
    exact assignee user sent

/-- A call that goes through on tables that meet every constraint fits the earlier ones. -/
theorem fits_of_replay {result : Executed} (after : After staged ticks clientId before t)
    (ready : Ready staged clientId user call)
    (done : replay env (ticks before.length) t clientId user op call = .ok result)
    (valid : result.tables.Consistent) : Fits staged clientId before call := by
  cases call with
  | planTaskCreate data => trivial
  | planTaskUpdate taskId data =>
    obtain ⟨applied, made, rfl⟩ := Outcome.of_map_ok done
    exact stops_update after ready made valid
  | planTaskDelete taskId =>
    obtain ⟨applied, made, rfl⟩ := Outcome.of_map_ok done
    intro gone
    obtain ⟨present, -⟩ := PlanService.applyDeleteTask_ok made
    rw [(after.tasks.deleted taskId gone).2] at present
    cases present
  | planTaskDuplicate taskId =>
    obtain ⟨applied, made, rfl⟩ := Outcome.of_map_ok done
    intro gone
    obtain ⟨source, present, -⟩ := PlanService.applyDuplicateTask_ok made
    rw [(after.tasks.deleted taskId gone).2] at present
    cases present
  | planTaskAddNote taskId data =>
    obtain ⟨⟨note, task, tables⟩, made, rfl⟩ := Outcome.of_map_ok done
    intro gone
    obtain ⟨-, present, -⟩ := PlanService.applyAddNote_ok made
    rw [(after.tasks.deleted taskId gone).2] at present
    cases present
  | assignmentAssign target caps =>
    obtain ⟨⟨row, tables⟩, made, rfl⟩ := Outcome.of_map_ok done
    intro other taken
    obtain ⟨-, there⟩ := after.assignments.taken target other taken
    rw [AssignmentService.applyAssign_free made] at there
    cases there
  | assignmentSetCapabilities target caps =>
    obtain ⟨⟨row, tables⟩, made, rfl⟩ := Outcome.of_map_ok done
    intro gone
    obtain ⟨existing, present⟩ := AssignmentService.applySetCapabilities_found made
    rw [(after.assignments.removed target gone).2] at present
    cases present
  | assignmentUnassign target =>
    obtain ⟨tables, made, rfl⟩ := Outcome.of_map_ok done
    intro gone
    obtain ⟨existing, present⟩ := AssignmentService.applyUnassign_found made
    rw [(after.assignments.removed target gone).2] at present
    cases present
  | updateClient data =>
    obtain ⟨applied, made, rfl⟩ := Outcome.of_map_ok done
    obtain ⟨client, present, -, tables⟩ := ClientService.applyUpdateClient_ok made
    rw [executed, tables] at valid
    have written := valid.1 _ (Table.mem_modify.mpr
      (.inr ⟨client, Table.get_mem present, Table.get_key present, rfl⟩))
    exact (ClientUpdate.storable_apply_iff (after.valid.1 client (Table.get_mem present))).mp
      (Client.storable_touch.mp written)
  | updateBrand data =>
    obtain ⟨client, present⟩ := Option.isSome_iff_exists.mp after.client
    simp only [replay, present, Except.ok.injEq] at done
    obtain rfl := done
    have written := valid.1 _ (Table.mem_modify.mpr
      (.inr ⟨client, Table.get_mem present, rfl, rfl⟩))
    exact (BrandUpdate.storable_apply_iff (after.valid.1 client (Table.get_mem present))).mp
      (Client.storable_touch.mp written)
  | updateUser target data => trivial

end Call

end MarketingOS.ProposalService
