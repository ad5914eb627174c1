import Mathlib.Data.List.Dedup
import MarketingOS.Ai.Scope
import MarketingOS.Verif.Approval

/-!
# A bulk call acts on its scope

What the texts of a call ask for, beside what the tools return. The status, the archive and the
window are filters of the query, which returns a page; the title and the assignee are looked at on
that page only.
-/
namespace MarketingOS

namespace Handlers

/-- What the filters of a call ask for. -/
structure Scope where
  status : Option TaskStatus
  window : Option (Date × Date)
  query : Option String
  assignee : Option Uuid
  assignedOnly : Bool
  includeArchived : Bool

variable (readers : Readers)

/-- The assignee a call names. -/
def readAssignee (assigneeId : Option String) : Except ScopeError (Option Uuid) :=
  match given assigneeId with
  | none => .ok none
  | some text => do
    let wanted ← orUnreadable (readers.parseUuid text)
    pure (some wanted)

/-- Read the filters of a call. -/
def readScope (onDate : Option String) (filters : TaskFilters) : Except ScopeError Scope := do
  let window ← resolveDateWindow readers onDate filters.startDate filters.endDate
  let status ← readStatus filters.status
  let assignee ← readAssignee readers filters.assigneeId
  pure ⟨status, window, given filters.query, assignee, filters.assignedOnly,
    filters.includeArchived⟩

namespace Scope

variable (scope : Scope)

/-- Whether a task passes the filters of the query. -/
def selects (clientId : Uuid) (task : PlanTask) : Bool :=
  (taskQuery scope.status scope.window scope.window.isNone scope.includeArchived).selects clientId
    task

/-- Whether a task passes the filters on title and assignee. -/
def keeps (task : PlanTask) : Bool :=
  (scope.query.all fun query => task.title.any (holds readers query)) &&
    match scope.assignee with
    | some wanted => decide (task.assigneeId = some wanted)
    | none => !scope.assignedOnly || task.assigneeId.isSome

/-- The tasks a call is about: those of the client that pass every filter. -/
def tasks (t : Tables) (clientId : Uuid) : List PlanTask :=
  t.planTasks.filter fun task => scope.selects clientId task && scope.keeps readers task

/-- The tasks that pass the filters of the query, in its order. -/
def ordered (t : Tables) (clientId : Uuid) : List PlanTask :=
  (taskQuery scope.status scope.window scope.window.isNone scope.includeArchived).ordered t clientId

/-- The tasks of a page that pass the other filters. -/
def found (t : Tables) (clientId : Uuid) : List PlanTask :=
  ((scope.ordered t clientId).take (maxBulkMatches + 1)).filter (scope.keeps readers)

/-- Whether every task the call is about is on the page. -/
def OnPage (t : Tables) (clientId : Uuid) : Prop :=
  ∀ task ∈ (scope.ordered t clientId).drop (maxBulkMatches + 1), scope.keeps readers task = false

/-- The tasks a call is about are those of the query that pass the other filters. -/
theorem tasks_perm (t : Tables) (clientId : Uuid) :
    (scope.tasks readers t clientId).Perm
      ((scope.ordered t clientId).filter (scope.keeps readers)) := by
  have selected := (TaskQuery.ordered_perm (taskQuery scope.status scope.window
    scope.window.isNone scope.includeArchived) t clientId).filter (scope.keeps readers)
  rw [List.filter_filter] at selected
  have same : (fun task => scope.keeps readers task &&
      (taskQuery scope.status scope.window scope.window.isNone scope.includeArchived).selects
        clientId task) = fun task => scope.selects clientId task && scope.keeps readers task :=
    funext fun task => Bool.and_comm _ _
  rw [same] at selected
  exact selected.symm

/-- What is found on the page and what is left behind it is what the call is about. -/
theorem length_tasks (t : Tables) (clientId : Uuid) :
    (scope.tasks readers t clientId).length = (scope.found readers t clientId).length +
      (((scope.ordered t clientId).drop (maxBulkMatches + 1)).filter
        (scope.keeps readers)).length := by
  rw [(scope.tasks_perm readers t clientId).length_eq, found, ← List.length_append,
    ← List.filter_append, List.take_append_drop]

/-- Every task is on the page when as many are found there as the call is about. -/
theorem onPage_iff (t : Tables) (clientId : Uuid) :
    scope.OnPage readers t clientId ↔
      (scope.found readers t clientId).length = (scope.tasks readers t clientId).length := by
  rw [length_tasks, Nat.left_eq_add, List.length_eq_zero_iff, List.filter_eq_nil_iff]
  simp only [OnPage, Bool.not_eq_true]

/-- What is found on the page is what the call is about. -/
theorem found_subset (t : Tables) (clientId : Uuid) :
    scope.found readers t clientId ⊆ scope.tasks readers t clientId := by
  intro task inside
  have page := List.Sublist.subset ((List.take_sublist _ _).filter (scope.keeps readers)) inside
  exact (scope.tasks_perm readers t clientId).mem_iff.mpr page

end Scope

/-! ## What the tools return -/

/-- A value that is there is read. -/
@[simp] theorem orUnreadable_some {α : Type} (value : α) : orUnreadable (some value) = .ok value :=
  rfl

/-- Of titled tasks those are left that pass the filters on title and assignee. -/
theorem narrow_eq {rows : List PlanTask} (titled : ∀ task ∈ rows, task.title.isSome)
    (status : Option TaskStatus) (window : Option (Date × Date)) (filters : TaskFilters) :
    (applyTitleFilter readers filters.query rows >>= fun rows =>
      applyAssigneeFilter readers filters.assigneeId filters.assignedOnly rows) =
      (readAssignee readers filters.assigneeId).map fun assignee =>
        rows.filter (Scope.keeps readers ⟨status, window, given filters.query, assignee,
          filters.assignedOnly, filters.includeArchived⟩) := by
  have named : applyTitleFilter readers filters.query rows =
      .ok (rows.filter fun row => (given filters.query).all fun query =>
        row.title.any (holds readers query)) := by
    unfold applyTitleFilter
    cases given filters.query with
    | none => simp
    | some query =>
      have allTitled : (rows.any fun row => row.title.isNone) = false := by
        rw [List.any_eq_false]
        intro row inside
        rw [← Option.not_isSome, titled row inside]
        decide
      rw [allTitled]
      rfl
  rw [named]
  change applyAssigneeFilter readers filters.assigneeId filters.assignedOnly _ = _
  unfold applyAssigneeFilter readAssignee Scope.keeps
  cases given filters.assigneeId with
  | none =>
    cases filters.assignedOnly with
    | false => simp [Except.map]
    | true => simp [Except.map, List.filter_filter, Bool.and_comm]
  | some text =>
    simp only
    cases orUnreadable (readers.parseUuid text) with
    | error exc => rfl
    | ok wanted =>
      simp [Except.map, List.filter_filter, Bool.and_comm, bind, Except.bind, pure, Except.pure]

/-- Every task of a page of tables in order has a title. -/
theorem titled_of_listTasks {t : Tables} (valid : t.Consistent) (clientId : Uuid)
    (query : TaskQuery) : ∀ task ∈ (t.listTasks clientId query).1, task.title.isSome := by
  intro task inside
  have paged : task ∈ query.ordered t clientId := by
    unfold Tables.listTasks TaskQuery.page at inside
    split at inside
    · exact List.mem_of_mem_drop inside
    · exact List.mem_of_mem_drop (List.mem_of_mem_take inside)
  have selected := (query.ordered_perm t clientId).mem_iff.mp paged
  obtain ⟨-, -, -, -, tasks, -⟩ := valid
  exact (tasks task (List.mem_filter.mp selected).1).1

/-- The page of a scope is the first rows of its query. -/
theorem listTasks_scope (t : Tables) (clientId : Uuid) (scope : Scope) :
    (t.listTasks clientId (taskQuery scope.status scope.window scope.window.isNone
      scope.includeArchived)).1 = (scope.ordered t clientId).take (maxBulkMatches + 1) := rfl

/-- How the filters of a call are read. -/
theorem readScope_ok {onDate : Option String} {filters : TaskFilters} {scope : Scope} :
    readScope readers onDate filters = .ok scope ↔
      resolveDateWindow readers onDate filters.startDate filters.endDate = .ok scope.window ∧
      readStatus filters.status = .ok scope.status ∧
      readAssignee readers filters.assigneeId = .ok scope.assignee ∧
      scope = ⟨scope.status, scope.window, given filters.query, scope.assignee,
        filters.assignedOnly, filters.includeArchived⟩ := by
  unfold readScope
  cases resolveDateWindow readers onDate filters.startDate filters.endDate with
  | error exc => simp [bind, Except.bind]
  | ok window =>
    cases readStatus filters.status with
    | error exc => simp [bind, Except.bind]
    | ok status =>
      cases readAssignee readers filters.assigneeId with
      | error exc => simp [bind, Except.bind]
      | ok assignee =>
        constructor
        · intro read
          obtain rfl := Except.ok.inj read
          exact ⟨rfl, rfl, rfl, rfl⟩
        · rintro ⟨window', status', assignee', same⟩
          obtain rfl := Except.ok.inj window'
          obtain rfl := Except.ok.inj status'
          obtain rfl := Except.ok.inj assignee'
          exact congrArg Except.ok same.symm

/-- What the tools leave of a page whose filters are read. -/
theorem narrow_page (db : Database) (clientId : Uuid) {onDate : Option String}
    {filters : TaskFilters} {scope : Scope} (read : readScope readers onDate filters = .ok scope) :
    (applyTitleFilter readers filters.query (db.tables.listTasks clientId
      (taskQuery scope.status scope.window scope.window.isNone filters.includeArchived)).1 >>=
        fun rows => applyAssigneeFilter readers filters.assigneeId filters.assignedOnly rows) =
      .ok (scope.found readers db.tables clientId) := by
  obtain ⟨-, -, assignee, same⟩ := (readScope_ok readers).mp read
  have archived : filters.includeArchived = scope.includeArchived := by rw [same]
  rw [narrow_eq readers (titled_of_listTasks db.consistent clientId _) scope.status scope.window, assignee,
    archived, listTasks_scope]
  have keep : Scope.keeps readers ⟨scope.status, scope.window, given filters.query,
      scope.assignee, filters.assignedOnly, scope.includeArchived⟩ = scope.keeps readers := by
    rw [← archived]
    exact congrArg (Scope.keeps readers) same.symm
  simp only [Except.map, keep]
  rfl

/-- What a bulk call over a range returns, when its filters are read. -/
theorem resolve_range (db : Database) (clientId : Uuid) {filters : TaskFilters} {scope : Scope}
    (read : readScope readers none filters = .ok scope) :
    resolveBulkTaskIds readers db.tables clientId none filters =
      if scope.window = none then .error .noScope
      else if maxBulkMatches < (scope.found readers db.tables clientId).length then
        .error (.overLimit (scope.found readers db.tables clientId).length)
      else .ok ((scope.found readers db.tables clientId).map PlanTask.id) := by
  obtain ⟨window, status, -, -⟩ := (readScope_ok readers).mp read
  have narrowed := narrow_page readers db clientId read
  unfold resolveBulkTaskIds
  rw [window]
  cases some : scope.window with
  | none => rfl
  | some window =>
    rw [some, Option.isNone_some] at narrowed
    change (readStatus filters.status >>= fun status =>
      applyTitleFilter readers filters.query (db.tables.listTasks clientId
        (taskQuery status (.some window) false filters.includeArchived)).1 >>= fun rows =>
      applyAssigneeFilter readers filters.assigneeId filters.assignedOnly rows >>= fun rows =>
      if maxBulkMatches < rows.length then .error (.overLimit rows.length)
      else pure (rows.map PlanTask.id)) = _
    rw [status]
    change (applyTitleFilter readers filters.query (db.tables.listTasks clientId
        (taskQuery scope.status (.some window) false filters.includeArchived)).1 >>= fun rows =>
      applyAssigneeFilter readers filters.assigneeId filters.assignedOnly rows >>= fun rows =>
      if maxBulkMatches < rows.length then .error (.overLimit rows.length)
      else pure (rows.map PlanTask.id)) = _
    rw [← bind_assoc, narrowed, if_neg (Option.some_ne_none window)]
    rfl

/-- A call names an assignee when the text of one is given. -/
theorem readAssignee_isSome {assigneeId : Option String} {assignee : Option Uuid}
    (read : readAssignee readers assigneeId = .ok assignee) :
    (given assigneeId).isSome = assignee.isSome := by
  unfold readAssignee at read
  split at read
  case h_1 absent =>
    rw [absent, ← Except.ok.inj read]
    rfl
  case h_2 text named =>
    rw [named]
    cases value : orUnreadable (readers.parseUuid text) with
    | error exc =>
      rw [value] at read
      cases read
    | ok wanted =>
      rw [value] at read
      rw [← Except.ok.inj read]
      rfl

/-- What a search returns, when its filters are read. -/
theorem search_read (db : Database) (clientId : Uuid) (onDate : Option String)
    {filters : TaskFilters} {scope : Scope} (limit : Int)
    (read : readScope readers onDate filters = .ok scope) :
    searchPlanTasks readers db.tables clientId onDate filters limit =
      .ok ⟨if (scope.query.isSome || scope.window.isSome || scope.assignee.isSome ||
          scope.assignedOnly) then (scope.found readers db.tables clientId).length
        else (scope.ordered db.tables clientId).length,
        upTo (min limit maxSearchResults) (scope.found readers db.tables clientId)⟩ := by
  obtain ⟨window, status, assignee, same⟩ := (readScope_ok readers).mp read
  have narrowed := narrow_page readers db clientId read
  unfold searchPlanTasks
  rw [window]
  change (readStatus filters.status >>= fun status =>
    applyTitleFilter readers filters.query (db.tables.listTasks clientId
      (taskQuery status scope.window scope.window.isNone filters.includeArchived)).1 >>= fun rows =>
    applyAssigneeFilter readers filters.assigneeId filters.assignedOnly rows >>= fun rows =>
    _) = _
  rw [status]
  change (applyTitleFilter readers filters.query (db.tables.listTasks clientId
      (taskQuery scope.status scope.window scope.window.isNone filters.includeArchived)).1 >>=
      fun rows =>
    applyAssigneeFilter readers filters.assigneeId filters.assignedOnly rows >>= fun rows =>
    _) = _
  rw [← bind_assoc, narrowed]
  have named := readAssignee_isSome readers assignee
  have query : given filters.query = scope.query := by rw [same]
  have only : filters.assignedOnly = scope.assignedOnly := by rw [same]
  have archived : filters.includeArchived = scope.includeArchived := by rw [same]
  have total : (db.tables.planTasks.filter ((taskQuery scope.status scope.window
      scope.window.isNone filters.includeArchived).selects clientId)).length =
      (scope.ordered db.tables clientId).length := by
    rw [archived]
    exact (TaskQuery.ordered_perm _ db.tables clientId).length_eq.symm
  change Except.ok (TaskSearch.mk (if _ then _ else _) _) = _
  rw [total, named, query, only]

/-- Whether a computation refuses no scope as too large. -/
def Reads {α : Type} (first : Except ScopeError α) : Prop :=
  ∀ error, first = .error error → ∀ count, error ≠ .overLimit count

/-- A result refuses nothing. -/
theorem Reads.ok {α : Type} (value : α) : Reads (.ok value) := fun _ refused => by cases refused

/-- A text that names nothing is no scope. -/
theorem Reads.orUnreadable {α : Type} (value : Option α) : Reads (orUnreadable value) := by
  intro error refused count
  cases value with
  | none =>
    rw [← Except.error.inj refused]
    exact ScopeError.noConfusion
  | some value => cases refused

/-- Reading one thing after another. -/
theorem Reads.bind {α β : Type} {first : Except ScopeError α} {next : α → Except ScopeError β}
    (reads : Reads first) (then_ : ∀ value, Reads (next value)) : Reads (first >>= next) := by
  intro error refused
  cases done : first with
  | error exc =>
    rw [done] at refused
    have same : exc = error := Except.error.inj refused
    exact reads error (done.trans (congrArg Except.error same))
  | ok value =>
    rw [done] at refused
    exact then_ value error refused

/-- A window is read before any task is. -/
theorem reads_resolveDateWindow (onDate startDate endDate : Option String) :
    Reads (resolveDateWindow readers onDate startDate endDate) := by
  unfold resolveDateWindow
  split
  · exact .bind (.orUnreadable _) fun _ => .ok _
  · split
    · exact .ok _
    · refine .bind (.orUnreadable _) fun start => .bind (.orUnreadable _) fun finish => ?_
      split
      · intro error refused count
        rw [← Except.error.inj refused]
        exact ScopeError.noConfusion
      · exact .ok _
    · intro error refused count
      rw [← Except.error.inj refused]
      exact ScopeError.noConfusion

/-- A status is read before any task is. -/
theorem reads_readStatus (status : Option String) : Reads (readStatus status) := by
  unfold readStatus
  split
  · exact .ok _
  · exact .bind (.orUnreadable _) fun _ => .ok _

/-- An assignee is read, or names nobody. -/
theorem reads_readAssignee (assigneeId : Option String) :
    Reads (readAssignee readers assigneeId) := by
  unfold readAssignee
  split
  · exact .ok _
  · exact .bind (.orUnreadable _) fun _ => .ok _

/-- A call whose filters are not read is refused, and not for a scope too large. -/
theorem resolve_unread (db : Database) (clientId : Uuid) {filters : TaskFilters}
    {error : ScopeError} (unread : readScope readers none filters = .error error) :
    ∃ error, resolveBulkTaskIds readers db.tables clientId none filters = .error error ∧
      ∀ count, error ≠ .overLimit count := by
  unfold readScope at unread
  unfold resolveBulkTaskIds
  cases window : resolveDateWindow readers none filters.startDate filters.endDate with
  | error exc => exact ⟨exc, rfl, reads_resolveDateWindow readers _ _ _ exc window⟩
  | ok range =>
    cases range with
    | none => exact ⟨.noScope, rfl, fun _ => ScopeError.noConfusion⟩
    | some range =>
      cases status : readStatus filters.status with
      | error exc => exact ⟨exc, rfl, reads_readStatus filters.status exc status⟩
      | ok state =>
        rw [window, status] at unread
        cases assignee : readAssignee readers filters.assigneeId with
        | ok wanted =>
          rw [assignee] at unread
          cases unread
        | error exc =>
          have refused := narrow_eq readers (titled_of_listTasks db.consistent clientId
            (taskQuery state (some range) false filters.includeArchived)) state (some range) filters
          rw [assignee] at refused
          refine ⟨exc, ?_, reads_readAssignee readers filters.assigneeId exc assignee⟩
          change (applyTitleFilter readers filters.query (db.tables.listTasks clientId
              (taskQuery state (.some range) false filters.includeArchived)).1 >>= fun rows =>
            applyAssigneeFilter readers filters.assigneeId filters.assignedOnly rows >>= fun rows =>
            if maxBulkMatches < rows.length then .error (.overLimit rows.length)
            else pure (rows.map PlanTask.id)) = _
          rw [← bind_assoc, refused]
          rfl

/-! ## The scope of a call -/

/-- The identifiers a bulk call is about, each once; nothing for a call that names no scope. -/
def scopeIds (t : Tables) (clientId : Uuid) (taskIds : Option (List String))
    (filters : TaskFilters) : Option (List Uuid) :=
  match taskIds with
  | some (first :: rest) => ((first :: rest).mapM readers.parseUuid).map List.dedup
  | _ =>
    match readScope readers none filters with
    | .error _ => none
    | .ok scope => scope.window.map fun _ => (scope.tasks readers t clientId).map PlanTask.id

/-- Whether a call returns a scope of at most a hundred tasks, each once, and refuses a larger one as
such and what names none otherwise. -/
def Exact (result : Except ScopeError (List Uuid)) : Option (List Uuid) → Prop
  | none => ∃ error, result = .error error ∧ ∀ count, error ≠ .overLimit count
  | some scope =>
    ((∃ count, result = .error (.overLimit count)) ↔ maxBulkMatches < scope.length) ∧
    (∀ error, result = .error error → ∃ count, error = .overLimit count) ∧
    ∀ ids, result = .ok ids →
      ids.Nodup ∧ ids.length ≤ maxBulkMatches ∧ ∀ id, id ∈ ids ↔ id ∈ scope

/-- Whether a call lists at most a hundred different tasks, or is about tasks that are all on the
page of its query, or about all of that page. -/
def Fits (t : Tables) (clientId : Uuid) (taskIds : Option (List String))
    (filters : TaskFilters) : Prop :=
  match taskIds with
  | some (first :: rest) => ∀ ids, (first :: rest).mapM readers.parseUuid = some ids →
      ids.Nodup ∧ ids.length ≤ maxBulkMatches
  | _ => ∀ scope, readScope readers none filters = .ok scope → scope.window ≠ none →
      scope.OnPage readers t clientId ∨
        ∀ task ∈ (scope.ordered t clientId).take (maxBulkMatches + 1),
          scope.keeps readers task = true

/-- Whether a search reports as many tasks as its filters are about. -/
def Counts (t : Tables) (clientId : Uuid) (onDate : Option String) (filters : TaskFilters)
    (limit : Int) : Prop :=
  ∀ scope search, readScope readers onDate filters = .ok scope →
    searchPlanTasks readers t clientId onDate filters limit = .ok search →
      search.totalMatching = (scope.tasks readers t clientId).length

/-- Reading a list of identifiers. -/
theorem mapM_orUnreadable (texts : List String) :
    texts.mapM (fun text => orUnreadable (readers.parseUuid text)) =
      orUnreadable (texts.mapM readers.parseUuid) := by
  induction texts with
  | nil => rfl
  | cons text texts ih =>
    rw [List.mapM_cons, List.mapM_cons, ih]
    cases readers.parseUuid text with
    | none => rfl
    | some id => cases texts.mapM readers.parseUuid <;> rfl

/-- A list of identifiers is acted on as it is. -/
theorem exact_listed_iff (ids : List Uuid) :
    Exact (.ok ids) (some ids.dedup) ↔ ids.Nodup ∧ ids.length ≤ maxBulkMatches := by
  constructor
  · rintro ⟨-, -, acts⟩
    obtain ⟨once, few, -⟩ := acts ids rfl
    exact ⟨once, few⟩
  · rintro ⟨once, few⟩
    rw [List.dedup_eq_self.mpr once]
    refine ⟨⟨?_, fun many => absurd few (Nat.not_le.mpr many)⟩, ?_, ?_⟩
    · rintro ⟨count, refused⟩
      cases refused
    · intro error refused
      cases refused
    · intro ids' same
      obtain rfl := Except.ok.inj same
      exact ⟨once, few, fun _ => Iff.rfl⟩

/-- The tasks of a committed state have different identifiers. -/
theorem ids_nodup (db : Database) : (db.tables.planTasks.map PlanTask.id).Nodup := by
  obtain ⟨-, -, -, -, -, ids, -⟩ := db.consistent
  exact ids

/-- When every task is on the page, those found there are those the call is about. -/
theorem Scope.found_perm {scope : Scope} {t : Tables} {clientId : Uuid}
    (onPage : scope.OnPage readers t clientId) :
    (scope.found readers t clientId).Perm (scope.tasks readers t clientId) := by
  have behind : ((scope.ordered t clientId).drop (maxBulkMatches + 1)).filter
      (scope.keeps readers) = [] := by
    rw [List.filter_eq_nil_iff]
    intro task inside
    rw [onPage task inside]
    exact Bool.false_ne_true
  have whole := List.filter_append (p := scope.keeps readers)
    ((scope.ordered t clientId).take (maxBulkMatches + 1))
    ((scope.ordered t clientId).drop (maxBulkMatches + 1))
  rw [List.take_append_drop, behind, List.append_nil] at whole
  have perm := scope.tasks_perm readers t clientId
  rw [whole] at perm
  exact perm.symm

/-- A page all of whose tasks the call is about holds every such task, or more than a hundred. -/
theorem Scope.full_or_onPage {scope : Scope} {t : Tables} {clientId : Uuid}
    (all : ∀ task ∈ (scope.ordered t clientId).take (maxBulkMatches + 1),
      scope.keeps readers task = true) :
    maxBulkMatches < (scope.found readers t clientId).length ∨
      scope.OnPage readers t clientId := by
  have found : scope.found readers t clientId =
      (scope.ordered t clientId).take (maxBulkMatches + 1) := List.filter_eq_self.mpr all
  rw [found, List.length_take]
  by_cases long : maxBulkMatches + 1 ≤ (scope.ordered t clientId).length
  · exact .inl (by omega)
  · refine .inr fun task inside => ?_
    rw [List.drop_eq_nil_of_le (by omega)] at inside
    cases inside

/-- What a bulk call over a range returns is exact when every task is on the page, or when all of a
page that is full are. -/
theorem exact_range_iff (db : Database) (clientId : Uuid) (scope : Scope) :
    Exact (if maxBulkMatches < (scope.found readers db.tables clientId).length then
        .error (.overLimit (scope.found readers db.tables clientId).length)
      else .ok ((scope.found readers db.tables clientId).map PlanTask.id))
      (some ((scope.tasks readers db.tables clientId).map PlanTask.id)) ↔
    scope.OnPage readers db.tables clientId ∨
      ∀ task ∈ (scope.ordered db.tables clientId).take (maxBulkMatches + 1),
        scope.keeps readers task = true := by
  have all := scope.length_tasks readers db.tables clientId
  have distinct : ((scope.tasks readers db.tables clientId).map PlanTask.id).Nodup :=
    (ids_nodup db).sublist (List.filter_sublist.map _)
  have distinct' : ((scope.found readers db.tables clientId).map PlanTask.id).Nodup := by
    have ordered : ((scope.ordered db.tables clientId).map PlanTask.id).Nodup := by
      have selected := (TaskQuery.ordered_perm (taskQuery scope.status scope.window
        scope.window.isNone scope.includeArchived) db.tables clientId).map PlanTask.id
      exact selected.nodup_iff.mpr ((ids_nodup db).sublist (List.filter_sublist.map _))
    exact ordered.sublist ((List.filter_sublist.trans (List.take_sublist _ _)).map _)
  by_cases many : maxBulkMatches < (scope.found readers db.tables clientId).length
  · rw [if_pos many]
    constructor
    · intro
      right
      have page : ((scope.ordered db.tables clientId).take (maxBulkMatches + 1)).length ≤
          maxBulkMatches + 1 := List.length_take_le _ _
      have kept : (scope.found readers db.tables clientId).length ≤
          ((scope.ordered db.tables clientId).take (maxBulkMatches + 1)).length :=
        List.length_filter_le _ _
      have full : (scope.found readers db.tables clientId).length =
          ((scope.ordered db.tables clientId).take (maxBulkMatches + 1)).length := by omega
      exact List.length_filter_eq_length_iff.mp full
    · intro
      refine ⟨⟨fun _ => ?_, fun _ => ⟨_, rfl⟩⟩, ?_, ?_⟩
      · rw [List.length_map]
        omega
      · intro error refused
        exact ⟨_, (Except.error.inj refused).symm⟩
      · intro ids returned
        cases returned
  · rw [if_neg many]
    constructor
    · rintro ⟨-, -, acts⟩
      obtain ⟨-, -, same⟩ := acts _ rfl
      have lengths := ((List.perm_ext_iff_of_nodup distinct' distinct).mpr same).length_eq
      rw [List.length_map, List.length_map] at lengths
      exact .inl ((scope.onPage_iff readers db.tables clientId).mpr lengths)
    · intro fits
      have onPage : scope.OnPage readers db.tables clientId :=
        fits.elim id fun all => (Scope.full_or_onPage readers all).resolve_left many
      have perm := (Scope.found_perm readers onPage).map PlanTask.id
      have few : ((scope.tasks readers db.tables clientId).map PlanTask.id).length ≤
          maxBulkMatches := by
        rw [← perm.length_eq, List.length_map]
        omega
      refine ⟨⟨?_, fun more => absurd few (Nat.not_le.mpr more)⟩, ?_, ?_⟩
      · rintro ⟨count, refused⟩
        cases refused
      · intro error refused
        cases refused
      · intro ids returned
        obtain rfl := Except.ok.inj returned
        exact ⟨distinct', perm.length_eq.trans_le few, fun _ => perm.mem_iff⟩

/-- A bulk call over a range acts on its scope exactly when it fits. -/
theorem exact_unlisted_iff (db : Database) (clientId : Uuid) (filters : TaskFilters) :
    Exact (resolveBulkTaskIds readers db.tables clientId none filters)
        (scopeIds readers db.tables clientId none filters) ↔
      Fits readers db.tables clientId none filters := by
  cases read : readScope readers none filters with
  | error exc =>
    have ids : scopeIds readers db.tables clientId none filters = none := by
      simp only [scopeIds, read]
    rw [ids]
    constructor
    · intro _ scope read'
      cases read.symm.trans read'
    · intro
      exact resolve_unread readers db clientId read
  | ok scope =>
    have ids : scopeIds readers db.tables clientId none filters =
        scope.window.map fun _ => (scope.tasks readers db.tables clientId).map PlanTask.id := by
      simp only [scopeIds, read]
    rw [resolve_range readers db clientId read, ids]
    cases window : scope.window with
    | none =>
      rw [if_pos rfl]
      constructor
      · intro _ scope' same shown
        obtain rfl := Except.ok.inj (read.symm.trans same)
        exact absurd window shown
      · intro
        exact ⟨.noScope, rfl, fun _ => ScopeError.noConfusion⟩
    | some range =>
      rw [if_neg (Option.some_ne_none range)]
      refine (exact_range_iff readers db clientId scope).trans ⟨?_, ?_⟩
      · intro fits scope' same _
        obtain rfl := Except.ok.inj (read.symm.trans same)
        exact fits
      · intro fits
        exact fits scope read (by rw [window]; exact Option.some_ne_none range)

/-- A bulk call over a list acts on it exactly when it fits. -/
theorem exact_list_iff (t : Tables) (clientId : Uuid) (first : String) (rest : List String)
    (filters : TaskFilters) :
    Exact (resolveBulkTaskIds readers t clientId (some (first :: rest)) filters)
        (scopeIds readers t clientId (some (first :: rest)) filters) ↔
      Fits readers t clientId (some (first :: rest)) filters := by
  have listed : resolveBulkTaskIds readers t clientId (some (first :: rest)) filters =
      orUnreadable ((first :: rest).mapM readers.parseUuid) :=
    mapM_orUnreadable readers (first :: rest)
  rw [listed]
  unfold scopeIds Fits
  simp only
  cases (first :: rest).mapM readers.parseUuid with
  | none =>
    constructor
    · intro _ ids same
      cases same
    · intro
      exact ⟨.unreadable, rfl, fun _ => ScopeError.noConfusion⟩
  | some ids =>
    refine (exact_listed_iff ids).trans ⟨?_, fun fits => fits ids rfl⟩
    intro fits ids' same
    obtain rfl := Option.some.inj same
    exact fits

/-- Without a filter on title or assignee every task of the query is kept. -/
theorem Scope.ordered_length {scope : Scope} (query : scope.query = none)
    (assignee : scope.assignee = none) (only : scope.assignedOnly = false) (t : Tables)
    (clientId : Uuid) :
    (scope.ordered t clientId).length = (scope.tasks readers t clientId).length := by
  rw [(scope.tasks_perm readers t clientId).length_eq]
  congr 1
  refine (List.filter_eq_self.mpr fun task _ => ?_).symm
  simp [Scope.keeps, query, assignee, only]

/-- A search reports as many tasks as match exactly when every one is on the page, or when it is
narrowed by nothing that is looked at there. -/
theorem counts_iff (db : Database) (clientId : Uuid) (onDate : Option String)
    (filters : TaskFilters) (limit : Int) :
    Counts readers db.tables clientId onDate filters limit ↔
      ∀ scope, readScope readers onDate filters = .ok scope →
        scope.OnPage readers db.tables clientId ∨
          (scope.query = none ∧ scope.window = none ∧ scope.assignee = none ∧
            scope.assignedOnly = false) := by
  have reported {scope : Scope} (read : readScope readers onDate filters = .ok scope) :
      (∀ search, searchPlanTasks readers db.tables clientId onDate filters limit = .ok search →
        search.totalMatching = (scope.tasks readers db.tables clientId).length) ↔
      (scope.OnPage readers db.tables clientId ∨
        (scope.query = none ∧ scope.window = none ∧ scope.assignee = none ∧
          scope.assignedOnly = false)) := by
    rw [search_read readers db clientId onDate limit read]
    simp only [Except.ok.injEq, forall_eq']
    by_cases narrowed : (scope.query.isSome || scope.window.isSome || scope.assignee.isSome ||
        scope.assignedOnly) = true
    · rw [if_pos narrowed, ← scope.onPage_iff]
      refine ⟨.inl, fun either => either.elim id ?_⟩
      rintro ⟨query, window, assignee, only⟩
      rw [query, window, assignee, only] at narrowed
      cases narrowed
    · rw [if_neg narrowed]
      simp only [Bool.or_eq_true, not_or, Bool.not_eq_true, Option.isSome_eq_false_iff,
        Option.isNone_iff_eq_none] at narrowed
      obtain ⟨⟨⟨query, window⟩, assignee⟩, only⟩ := narrowed
      exact ⟨fun _ => .inr ⟨query, window, assignee, only⟩, fun _ =>
        Scope.ordered_length readers query assignee only db.tables clientId⟩
  constructor
  · intro counts scope read
    exact (reported read).mp fun search => counts scope search read
  · intro fits scope search read
    exact (reported read).mpr (fits scope read) search

/-- A bulk call acts on its scope, each task once, and refuses a scope of more than a hundred, exactly
when it lists at most a hundred different tasks, or every task it is about is on the page of its
query, or it is about all of that page. A search reports as many tasks as match exactly when every
one is on the page, or when it is narrowed by nothing that is looked at there. -/
theorem bulk_scope_iff (db : Database) (clientId : Uuid) (taskIds : Option (List String))
    (filters : TaskFilters) (onDate : Option String) (limit : Int) :
    (Exact (resolveBulkTaskIds readers db.tables clientId taskIds filters)
        (scopeIds readers db.tables clientId taskIds filters) ↔
      Fits readers db.tables clientId taskIds filters) ∧
    (Counts readers db.tables clientId onDate filters limit ↔
      ∀ scope, readScope readers onDate filters = .ok scope →
        scope.OnPage readers db.tables clientId ∨
          (scope.query = none ∧ scope.window = none ∧ scope.assignee = none ∧
            scope.assignedOnly = false)) := by
  refine ⟨?_, counts_iff readers db clientId onDate filters limit⟩
  match taskIds with
  | none => exact exact_unlisted_iff readers db clientId filters
  | some [] => exact exact_unlisted_iff readers db clientId filters
  | some (first :: rest) => exact exact_list_iff readers db.tables clientId first rest filters

/-- Texts read as they are written, and letters of the ASCII range. -/
def sampleReaders : Readers := ⟨.ascii, Date.parse, Uuid.parse⟩

/-- A task of the first of March; only the last one is assigned. -/
def crowdedTask (n : Nat) : PlanTask :=
  { sampleTask with
    id := BitVec.ofNat 128 (100 + n)
    startDate := some ⟨2026, 3, 1, by decide⟩
    assigneeId := if n = 101 then some 1 else none }

/-- A board of a hundred and two tasks on one day. -/
def crowded : Database where
  tables := { sampleTables [] with planTasks := (List.range 102).map crowdedTask }
  consistent := by decide +kernel
  columns := by decide +kernel

/-- The assigned tasks of March. -/
def marchAssigned : TaskFilters :=
  { startDate := some "2026-03-01", endDate := some "2026-03-31", assignedOnly := true }

/-- One task of March is assigned, and a bulk call over the assigned tasks of March acts on none. -/
theorem assigned_task_left_out :
    resolveBulkTaskIds sampleReaders crowded.tables 2 none marchAssigned = .ok [] ∧
      scopeIds sampleReaders crowded.tables 2 none marchAssigned = some [201] ∧
      ¬Exact (resolveBulkTaskIds sampleReaders crowded.tables 2 none marchAssigned)
        (scopeIds sampleReaders crowded.tables 2 none marchAssigned) := by
  have result : resolveBulkTaskIds sampleReaders crowded.tables 2 none marchAssigned = .ok [] := by
    decide +kernel
  have scope : scopeIds sampleReaders crowded.tables 2 none marchAssigned = some [201] := by
    decide +kernel
  refine ⟨result, scope, ?_⟩
  rw [result, scope]
  rintro ⟨-, -, acts⟩
  obtain ⟨-, -, same⟩ := acts [] rfl
  exact absurd ((same 201).mpr (List.mem_singleton.mpr rfl)) List.not_mem_nil

end Handlers

end MarketingOS
