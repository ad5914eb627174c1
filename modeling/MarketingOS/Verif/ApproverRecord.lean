import MarketingOS.Base.GrantLedger
import MarketingOS.Services.Calendar
import MarketingOS.Verif.PlanRanges

/-!
# The approver of a calendar item

The eight calls that set the approval columns, as one machine over the committed database, with a
log of who approved what. Each call is one operation of a grant ledger, so the columns go wrong
through the two calls that take an approval back and leave its user.
-/
namespace MarketingOS.ApprovalRecord

open PlanGenerationService CalendarService GrantLedger

/-! ## The machine -/

/-- One call, with what it reads from outside. -/
inductive Label where
  | createEvent (eventId clientId : Uuid) (data : EventCreate) (createdBy : Uuid)
  | decideApproval (clientId eventId : Uuid) (data : ApprovalDecision) (actor : Uuid)
  | proposeRange (now : Timestamp) (clientId : Uuid) (startDate endDate : Date)
      (createdBy assigneeId : Option Uuid) (drafts : List (FreshItem × ProposedItem))
  | assign (now : Timestamp) (clientId taskId : Uuid) (data : PlanGenerationAssign) (actor : Uuid)
  | reject (now : Timestamp) (clientId taskId : Uuid) (data : PlanGenerationReject) (actor : Uuid)
  | approveBatch (clientId : Uuid) (taskIds : List Uuid) (actor : Uuid)
  | rejectBatch (now : Timestamp) (clientId : Uuid) (taskIds : List Uuid) (reason : String)
      (actor : Uuid)
  | regenerateItem (now : Timestamp) (clientId taskId : Uuid) (data : PlanGenerationRegenerate)
      (item : ProposedItem) (actor : Uuid)

/-- What a call commits, or the error it raises. -/
def perform (db : Database) : Label → Outcome Database
  | .createEvent eventId clientId data createdBy => createEvent db eventId clientId data createdBy
  | .decideApproval clientId eventId data actor => decideApproval db clientId eventId data actor
  | .proposeRange now clientId startDate endDate createdBy assigneeId drafts =>
    proposeRange now db clientId startDate endDate createdBy assigneeId drafts
  | .assign now clientId taskId data actor => assign now db clientId taskId data actor
  | .reject now clientId taskId data actor => reject now db clientId taskId data actor
  | .approveBatch clientId taskIds actor => approveBatch db clientId taskIds actor
  | .rejectBatch now clientId taskIds reason actor =>
    rejectBatch now db clientId taskIds reason actor
  | .regenerateItem now clientId taskId data item actor =>
    regenerateItem now db clientId taskId data item actor

/-- Nothing on the calendar was approved yet. -/
def Untouched (db : Database) : Prop :=
  ∀ event ∈ db.tables.events, event.approvedBy = none ∧ event.approvalStatus ≠ .approved

/-- The machine of the calendar; a call that raises commits nothing. -/
def machine : Machine Database Label where
  start := Untouched
  next db label := (perform db label).toOption

/-- The events some tasks of a client are linked to. -/
def linked (t : Tables) (clientId : Uuid) (taskIds : List Uuid) : List Uuid :=
  taskIds.filterMap fun taskId => (t.getTask clientId taskId).bind PlanTask.eventId

/-- The approvals a call makes: the events, and the user who approves. -/
def approvals (db : Database) : Label → List (Uuid × Uuid)
  | .decideApproval _ eventId data actor =>
    if data.status = .approved then [(eventId, actor)] else []
  | .assign _ clientId taskId _ actor =>
    (linked db.tables clientId [taskId]).map fun eventId => (eventId, actor)
  | .approveBatch clientId taskIds actor =>
    (linked db.tables clientId taskIds).map fun eventId => (eventId, actor)
  | _ => []

/-- The machine with a log of the approvals. -/
def approving : Machine (Database × List (Uuid × Uuid)) Label := machine.logged approvals

/-- An approver is recorded exactly on approved events, and is the user who approved last. -/
def Recorded (s : Database × List (Uuid × Uuid)) : Prop :=
  ∀ event ∈ s.1.tables.events,
    (event.approvedBy.isSome ↔ event.approvalStatus = .approved) ∧
      ∀ user ∈ event.approvedBy, latest s.2 event.id = some user

/-- A rejection, single or in a batch, takes no task whose event is approved. -/
def SparesApproved : Machine.Guard (Database × List (Uuid × Uuid)) Label
  | s, .reject _ clientId taskId _ _ =>
    ∀ event ∈ s.1.tables.events, event.id ∈ linked s.1.tables clientId [taskId] →
      event.approvalStatus ≠ .approved
  | s, .rejectBatch _ clientId taskIds _ _ =>
    ∀ event ∈ s.1.tables.events, event.id ∈ linked s.1.tables clientId taskIds →
      event.approvalStatus ≠ .approved
  | _, _ => True

instance (s : Database × List (Uuid × Uuid)) : Decidable (Recorded s) := by
  unfold Recorded; infer_instance

/-- Whether no event of a list is approved, by a search of the list for every event. -/
theorem spares_search (t : Tables) (eventIds : List Uuid) :
    (∀ event ∈ t.events, (eventIds.any fun eventId => eventId = event.id) = true →
        event.approvalStatus ≠ .approved) ↔
      ∀ event ∈ t.events, event.id ∈ eventIds → event.approvalStatus ≠ .approved := by
  simp

instance (s : Database × List (Uuid × Uuid)) (label : Label) :
    Decidable (SparesApproved s label) :=
  match label with
  | .reject _ clientId taskId _ _ =>
    decidable_of_iff _ (spares_search s.1.tables (linked s.1.tables clientId [taskId]))
  | .rejectBatch _ clientId taskIds _ _ =>
    decidable_of_iff _ (spares_search s.1.tables (linked s.1.tables clientId taskIds))
  | .createEvent .. | .decideApproval .. | .proposeRange .. | .assign .. | .approveBatch ..
  | .regenerateItem .. => .isTrue trivial

/-! ## The calendar as a grant ledger -/

/-- The approval columns of an event. -/
def entry (event : MarketingEvent) : Entry Uuid Uuid :=
  ⟨event.id, event.approvalStatus = .approved, event.approvedBy⟩

/-- The approval columns of the calendar. -/
def ledger (t : Tables) : List (Entry Uuid Uuid) := t.events.map entry

/-- The ledger operation a call is. -/
def operation (db : Database) : Label → Op Uuid Uuid
  | .createEvent eventId _ _ _ => .enter [eventId]
  | .decideApproval _ eventId data actor =>
    if data.status = .approved then .grant [eventId] actor else .clear [eventId]
  | .proposeRange _ _ _ _ _ _ drafts => .enter (drafts.map fun draft => draft.1.eventId)
  | .assign _ clientId taskId _ actor => .grant (linked db.tables clientId [taskId]) actor
  | .reject _ clientId taskId _ _ => .deny (linked db.tables clientId [taskId])
  | .approveBatch clientId taskIds actor => .grant (linked db.tables clientId taskIds) actor
  | .rejectBatch _ clientId taskIds _ _ => .deny (linked db.tables clientId taskIds)
  | .regenerateItem _ clientId taskId _ _ _ => .clear (linked db.tables clientId [taskId])

/-- The approvals of a call are the grants of its operation. -/
theorem approvals_eq (db : Database) (label : Label) :
    approvals db label = (operation db label).grants := by
  cases label with
  | decideApproval clientId eventId data actor =>
    by_cases approved : data.status = .approved <;> simp [approvals, operation, approved, Op.grants]
  | _ => rfl

/-- A state is recorded when its ledger is sound. -/
theorem recorded_iff {s : Database × List (Uuid × Uuid)} :
    Recorded s ↔ Sound s.2 (ledger s.1.tables) := by
  simp only [Recorded, Sound, Entry.Sound, ledger, List.forall_mem_map, entry, decide_eq_true_eq]

/-- Rejections spare what is approved when their operations spare what is granted. -/
theorem spares_iff (s : Database × List (Uuid × Uuid)) (label : Label) :
    SparesApproved s label ↔ (operation s.1 label).Spares (ledger s.1.tables) := by
  cases label with
  | decideApproval clientId eventId data actor =>
    by_cases approved : data.status = .approved <;>
      simp [SparesApproved, operation, approved, Op.Spares]
  | _ => simp [SparesApproved, operation, Op.Spares, ledger, entry]

variable {t t' : Tables} {db db' : Database} {now : Timestamp} {clientId taskId actor : Uuid}

/-! ## Writes -/

/-- A commit stores the calendar as it is. -/
theorem ledger_of_commit (committed : commit t = .ok db) : ledger db.tables = ledger t := by
  rw [commit_ok committed]
  rfl

/-- A write to one event that is an operation on its entry. -/
theorem ledger_modifyEvent {change : MarketingEvent → MarketingEvent}
    {write : Entry Uuid Uuid → Entry Uuid Uuid} (same : ∀ event, entry (change event) =
      write (entry event)) (eventId : Uuid) :
    ledger (t.modifyEvent eventId change) = update [eventId] write (ledger t) := by
  simp only [ledger, Tables.modifyEvent, Table.modify, update, List.map_map]
  apply List.map_congr_left
  intro event _
  have key : (entry event).key = event.id := rfl
  by_cases hit : event.id = eventId <;> simp [hit, key, same]

/-- A write to the event of a task that is an operation on its entry. -/
theorem ledger_modifyEventOf {change : MarketingEvent → MarketingEvent}
    {write : Entry Uuid Uuid → Entry Uuid Uuid} (same : ∀ event, entry (change event) =
      write (entry event)) {task : PlanTask}
    (found : t.getTask clientId taskId = some task) (written : Tables)
    (events : written.events = t.events) :
    ledger (modifyEventOf written task change) =
      update (linked t clientId [taskId]) write (ledger t) := by
  have start : ledger written = ledger t := congrArg (List.map entry) events
  cases link : task.eventId with
  | none =>
    simp [modifyEventOf, linked, found, link, start]
  | some eventId =>
    have one : linked t clientId [taskId] = [eventId] := by simp [linked, found, link]
    simp only [modifyEventOf, link]
    rw [ledger_modifyEvent same, one, start]

/-- An approval grants. -/
theorem entry_approveEvent (note : String) (event : MarketingEvent) :
    entry (approveEvent note actor event) = (entry event).grantTo actor := rfl

/-- A rejection denies. -/
theorem entry_rejectEvent (prefixed reason : String) (event : MarketingEvent) :
    entry (rejectEvent prefixed reason actor event) = (entry event).denied := rfl

/-- A regeneration clears. -/
theorem entry_redraftEvent (item : ProposedItem) (reason : String) (event : MarketingEvent) :
    entry (redraftEvent item reason actor event) = (entry event).cleared := rfl

/-- A decision to approve grants. -/
theorem entry_decided_approved {data : ApprovalDecision} (approved : data.status = .approved)
    (event : MarketingEvent) : entry (decided data actor event) = (entry event).grantTo actor := by
  simp [entry, decided, logActivity, approved, Entry.grantTo]

/-- Every other decision clears. -/
theorem entry_decided_other {data : ApprovalDecision} (other : data.status ≠ .approved)
    (event : MarketingEvent) : entry (decided data actor event) = (entry event).cleared := by
  simp [entry, decided, logActivity, other, Entry.cleared]

/-- The links of tasks do not depend on their other columns. -/
theorem linked_congr {columns : PlanTask → PlanTask} (taskIds : List Uuid)
    (keeps : ∀ task, (columns task).scoped = task.scoped ∧ (columns task).eventId = task.eventId)
    (rows : t'.planTasks = Table.modify PlanTask.id taskId columns t.planTasks) :
    linked t' clientId taskIds = linked t clientId taskIds := by
  unfold linked
  congr 1
  funext sought
  rw [Tables.getTask, rows, Table.get_modify_of_keeps (fun task => (keeps task).1)]
  show _ = (Table.get PlanTask.scoped t.planTasks (sought, clientId)).bind PlanTask.eventId
  cases Table.get PlanTask.scoped t.planTasks (sought, clientId) with
  | none => rfl
  | some task =>
    by_cases hit : task.id = taskId <;> simp [hit, keeps]

/-! ## Loops -/

/-- The links of a list of tasks, first to last. -/
theorem linked_cons (t : Tables) (clientId taskId : Uuid) (rest : List Uuid) :
    linked t clientId (taskId :: rest) = linked t clientId [taskId] ++ linked t clientId rest := by
  unfold linked
  exact List.filterMap_append (l := [taskId])

/-- Taking another path to the events of tasks leaves their links alone. -/
theorem linked_of_planTasks (same : t'.planTasks = t.planTasks) (taskIds : List Uuid) :
    linked t' clientId taskIds = linked t clientId taskIds := by
  unfold linked Tables.getTask
  rw [same]

/-- A blocked task is linked to the event it was linked to. -/
theorem blocked_keeps (now : Timestamp) (row : PlanTask) :
    (PlanTask.touch now row (blocked row)).scoped = row.scoped ∧
      (PlanTask.touch now row (blocked row)).eventId = row.eventId := by
  unfold PlanTask.touch
  split
  · exact ⟨rfl, rfl⟩
  · exact ⟨rfl, rfl⟩

/-- The calendar after a loop of approvals. -/
theorem ledger_approveEach {taskIds : List Uuid}
    (done : approveEach clientId actor t taskIds = .ok t') :
    ledger t' = update (linked t clientId taskIds) (Entry.grantTo actor) (ledger t) := by
  induction taskIds generalizing t with
  | nil =>
    obtain rfl := Except.ok.inj done
    simp [linked]
  | cons taskId rest ih =>
    simp only [approveEach, Outcome.bind_ok] at done
    obtain ⟨task, read, done⟩ := done
    have found := PlanService.getTask_ok.mp read
    rw [ih done, linked_of_planTasks (TaskBoard.modifyEventOf_planTasks t task _),
      ledger_modifyEventOf (entry_approveEvent _) found t rfl,
      update_update (Entry.grantTo actor) _ _ (fun _ => rfl) (fun _ => rfl), ← linked_cons]

/-- The calendar after a loop of rejections. -/
theorem ledger_rejectEach {reason : String} {taskIds : List Uuid}
    (done : rejectEach now clientId reason actor t taskIds = .ok t') :
    ledger t' = update (linked t clientId taskIds) Entry.denied (ledger t) := by
  induction taskIds generalizing t with
  | nil =>
    obtain rfl := Except.ok.inj done
    simp [linked]
  | cons taskId rest ih =>
    simp only [rejectEach, Outcome.bind_ok] at done
    obtain ⟨task, read, done⟩ := done
    have found := PlanService.getTask_ok.mp read
    have links : linked (modifyEventOf (modifyTask t now taskId blocked) task
        (rejectEvent "rejected via chat: " reason actor)) clientId rest =
        linked t clientId rest := by
      rw [linked_of_planTasks (TaskBoard.modifyEventOf_planTasks _ task _)]
      exact linked_congr rest (blocked_keeps now) rfl
    have first : ledger (modifyEventOf (modifyTask t now taskId blocked) task
        (rejectEvent "rejected via chat: " reason actor)) =
        update (linked t clientId [taskId]) Entry.denied (ledger t) :=
      ledger_modifyEventOf (entry_rejectEvent _ _) found _ rfl
    rw [ih done, links, first,
      update_update Entry.denied _ _ (fun _ => rfl) (fun _ => rfl), ← linked_cons]

/-- The calendar after a batch of drafts. -/
theorem ledger_addDrafts {createdBy assigneeId : Option Uuid}
    {drafts : List (FreshItem × ProposedItem)}
    (done : addDrafts now clientId createdBy assigneeId t drafts = .ok t') :
    ledger t' = ledger t ++ drafts.map fun draft => ⟨draft.1.eventId, false, none⟩ := by
  induction drafts generalizing t with
  | nil =>
    obtain rfl := Except.ok.inj done
    simp
  | cons draft rest ih =>
    obtain ⟨fresh, item⟩ := draft
    simp only [addDrafts, Outcome.bind_ok] at done
    obtain ⟨withEvent, sent, withTask, sent', done⟩ := done
    obtain ⟨rfl, -⟩ := flush_ok sent
    obtain ⟨rfl, -⟩ := flush_ok sent'
    rw [ih done]
    simp [ledger, entry, draftEvent]

/-! ## Steps and runs -/

/-- A call writes what its operation writes. -/
theorem ledger_perform {label : Label} (done : perform db label = .ok db') :
    ledger db'.tables = (operation db label).apply (ledger db.tables) := by
  cases label with
  | createEvent eventId clientId data createdBy =>
    simp only [perform, createEvent, Outcome.bind_ok] at done
    obtain ⟨_, -, committed⟩ := done
    rw [ledger_of_commit committed]
    simp [ledger, operation, Op.apply, entry, newEvent]
  | decideApproval clientId eventId data actor =>
    simp only [perform, decideApproval, Outcome.bind_ok] at done
    obtain ⟨event, read, committed⟩ := done
    have named : event.id = eventId := by
      unfold CalendarService.getEvent at read
      split at read
      · cases read
      · next row found =>
        cases read
        have both := List.find?_some found
        simp only [decide_eq_true_eq] at both
        exact both.1
    rw [ledger_of_commit committed, named, operation]
    by_cases approved : data.status = .approved
    · rw [if_pos approved]
      exact ledger_modifyEvent (entry_decided_approved approved) eventId
    · rw [if_neg approved]
      exact ledger_modifyEvent (entry_decided_other approved) eventId
  | proposeRange now clientId startDate endDate createdBy assigneeId drafts =>
    simp only [perform, proposeRange] at done
    split at done
    · cases done
    · obtain ⟨t, added, committed⟩ := Outcome.bind_ok.mp done
      rw [ledger_of_commit committed, ledger_addDrafts added]
      simp [operation, Op.apply]
  | assign now clientId taskId data actor =>
    simp only [perform, assign, Outcome.bind_ok] at done
    obtain ⟨task, read, committed⟩ := done
    rw [ledger_of_commit committed]
    exact ledger_modifyEventOf (entry_approveEvent _) (PlanService.getTask_ok.mp read) _ rfl
  | reject now clientId taskId data actor =>
    simp only [perform, reject, Outcome.bind_ok] at done
    obtain ⟨task, read, committed⟩ := done
    rw [ledger_of_commit committed]
    exact ledger_modifyEventOf (entry_rejectEvent _ _) (PlanService.getTask_ok.mp read) _ rfl
  | approveBatch clientId taskIds actor =>
    simp only [perform, approveBatch, Outcome.bind_ok] at done
    obtain ⟨t, looped, committed⟩ := done
    rw [ledger_of_commit committed]
    exact ledger_approveEach looped
  | rejectBatch now clientId taskIds reason actor =>
    simp only [perform, rejectBatch, Outcome.bind_ok] at done
    obtain ⟨t, looped, committed⟩ := done
    rw [ledger_of_commit committed]
    exact ledger_rejectEach looped
  | regenerateItem now clientId taskId data item actor =>
    simp only [perform, regenerateItem, Outcome.bind_ok] at done
    obtain ⟨task, read, done⟩ := done
    split at done
    · cases done
    · rw [ledger_of_commit done]
      exact ledger_modifyEventOf (entry_redraftEvent _ _) (PlanService.getTask_ok.mp read) _ rfl

/-- A calendar on which nothing was approved yet is recorded. -/
theorem recorded_of_start {s : Database × List (Uuid × Uuid)} (first : approving.start s) :
    Recorded s := by
  intro event inside
  obtain ⟨empty, other⟩ := first.1 event inside
  simp [empty, other]

/-- From a recorded state, a call leads to a recorded state exactly if it spares what is
approved. -/
theorem recorded_next_iff {s s' : Database × List (Uuid × Uuid)} {label : Label}
    (recorded : Recorded s) (taken : approving.next s label = some s') :
    Recorded s' ↔ SparesApproved s label := by
  obtain ⟨db, moved, rfl⟩ := Option.map_eq_some_iff.mp taken
  have done : perform s.1 label = .ok db := by
    change (perform s.1 label).toOption = some db at moved
    cases result : perform s.1 label with
    | error exc =>
      rw [result] at moved
      cases moved
    | ok after =>
      rw [result] at moved
      rw [Option.some.inj moved]
  rw [recorded_iff] at recorded ⊢
  rw [spares_iff, approvals_eq, ledger_perform done]
  exact sound_apply_iff recorded (operation s.1 label)

/-- In a run on a calendar on which nothing was approved yet, every state has its approvers
recorded exactly if no rejection takes a task whose event is approved. -/
theorem approvers_recorded_iff {s last : Database × List (Uuid × Uuid)} {labels : List Label}
    (first : approving.start s) (run : approving.Run Machine.anyStep s labels last) :
    (∀ early middle, early <+: labels → approving.Run Machine.anyStep s early middle →
        Recorded middle) ↔
      approving.Run SparesApproved s labels last := by
  apply run.passes_iff
  · exact fun _ _ _ recorded taken => recorded_next_iff recorded taken
  · exact recorded_of_start first

/-- A drafted item. -/
def sampleDraft : ProposedItem where
  title := ⟨"Spring sale", by decide⟩
  eventDate := TaskBoard.january 17
  platform := .instagram
  category := .content
  contentFormat := none
  caption := none
  hashtags := none

/-- The item is drafted and approved by its assignment. -/
def sampleApproval : List Label :=
  [.proposeRange 0 2 (TaskBoard.january 1) (TaskBoard.january 31) (some 1) none
      [(⟨50, 51⟩, sampleDraft)],
    .assign 1 2 51 ⟨1, none, none⟩ 1]

/-- The task of the item is rejected. -/
def sampleRejection : Label := .reject 2 2 51 ⟨"Off brand", by decide⟩ 1

/-- Nothing was approved in the sample database. -/
theorem sample_start : approving.start (sampleDatabase [], []) := by
  refine ⟨?_, rfl⟩
  intro event inside
  cases inside

/-- When changes are requested before the rejection, every approver is recorded. -/
theorem approvers_recorded_after_request :
    ∃ last, approving.Run SparesApproved (sampleDatabase [], [])
        (sampleApproval ++ [.decideApproval 2 50 ⟨.changesRequested, none⟩ 1, sampleRejection])
        last ∧ Recorded last := by
  obtain ⟨last, played⟩ := Option.isSome_iff_exists.mp
    (show (approving.play SparesApproved (sampleDatabase [], []) (sampleApproval ++
      [.decideApproval 2 50 ⟨.changesRequested, none⟩ 1, sampleRejection])).isSome = true by
        decide +kernel)
  have run := Machine.run_of_play played
  exact ⟨last, run, (approvers_recorded_iff sample_start run.any).mpr run _ last
    (List.prefix_refl _) run.any⟩

/-- A rejection leaves the user of the approval it takes back. -/
theorem rejected_item_keeps_approver :
    ∃ last, approving.Run Machine.anyStep (sampleDatabase [], [])
        (sampleApproval ++ [sampleRejection]) last ∧ ¬Recorded last ∧
      last.1.tables.events.map (fun event => (event.approvalStatus, event.approvedBy)) =
        [(.rejected, some 1)] := by
  have wrong : (approving.play Machine.anyStep (sampleDatabase [], [])
      (sampleApproval ++ [sampleRejection])).any fun last => ¬Recorded last ∧
        last.1.tables.events.map (fun event => (event.approvalStatus, event.approvedBy)) =
          [(.rejected, some 1)] := by
    decide +kernel
  obtain ⟨last, played, columns⟩ := (Option.any_eq_true _ _).mp wrong
  exact ⟨last, Machine.run_of_play played, of_decide_eq_true columns⟩

end MarketingOS.ApprovalRecord
