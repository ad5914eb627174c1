import MarketingOS.Services.PlanDraft
import MarketingOS.Verif.ApproverRecord

/-!
# Drafts resolved once

What holds of a card and its events over every interleaving in which no batch is applied against
the verdict of another, and every drafted task is there when a batch is.
-/
namespace MarketingOS.PlanDraft

open PlanGenerationService
open ApprovalRecord (linked linked_cons linked_congr linked_of_planTasks blocked_keeps)

/-! ## Batches -/

/-- The statuses of a calendar. -/
def statuses (t : Tables) : List (Uuid × ApprovalStatus) :=
  t.events.map fun event => (event.id, event.approvalStatus)

/-- Rows with the statuses under some keys set. -/
def mark {κ σ : Type} [DecidableEq κ] (keys : List κ) (status : σ) (rows : List (κ × σ)) :
    List (κ × σ) :=
  rows.map fun row => if row.1 ∈ keys then (row.1, status) else row

/-- Setting statuses in two goes is setting them in one. -/
theorem mark_mark {κ σ : Type} [DecidableEq κ] (first last : List κ) (status : σ)
    (rows : List (κ × σ)) :
    mark last status (mark first status rows) = mark (first ++ last) status rows := by
  simp only [mark, List.map_map]
  apply List.map_congr_left
  intro row _
  by_cases early : row.1 ∈ first <;> by_cases late : row.1 ∈ last <;> simp [early, late]

variable {t t' : Tables} {db db' : Database} {now : Timestamp} {clientId actor : Uuid}

/-- A write that sets a status, to the event of a task. -/
theorem statuses_modifyEventOf {change : MarketingEvent → MarketingEvent} {status : ApprovalStatus}
    (sets : ∀ event, (change event).id = event.id ∧ (change event).approvalStatus = status)
    {task : PlanTask} {taskId : Uuid} (found : t.getTask clientId taskId = some task)
    {written : Tables} (events : written.events = t.events) :
    statuses (modifyEventOf written task change) =
      mark (linked t clientId [taskId]) status (statuses t) := by
  cases link : task.eventId with
  | none => simp [modifyEventOf, linked, found, link, statuses, mark, events]
  | some eventId =>
    have one : linked t clientId [taskId] = [eventId] := by simp [linked, found, link]
    simp only [modifyEventOf, link, statuses, Tables.modifyEvent, Table.modify, mark, one,
      List.map_map, events]
    apply List.map_congr_left
    intro event _
    by_cases hit : event.id = eventId <;> simp [hit, sets]

/-- An approval sets its status. -/
theorem approveEvent_sets (note : String) (event : MarketingEvent) :
    (approveEvent note actor event).id = event.id ∧
      (approveEvent note actor event).approvalStatus = .approved := ⟨rfl, rfl⟩

/-- A rejection sets its status. -/
theorem rejectEvent_sets (prefixed reason : String) (event : MarketingEvent) :
    (rejectEvent prefixed reason actor event).id = event.id ∧
      (rejectEvent prefixed reason actor event).approvalStatus = .rejected := ⟨rfl, rfl⟩

/-- The calendar after a loop of approvals. -/
theorem statuses_approveEach {taskIds : List Uuid}
    (done : approveEach clientId actor t taskIds = .ok t') :
    statuses t' = mark (linked t clientId taskIds) .approved (statuses t) := by
  induction taskIds generalizing t with
  | nil =>
    obtain rfl := Except.ok.inj done
    simp [linked, mark]
  | cons taskId rest ih =>
    simp only [approveEach, Outcome.bind_ok] at done
    obtain ⟨task, read, done⟩ := done
    have found := PlanService.getTask_ok.mp read
    have first : statuses (modifyEventOf t task (approveEvent "approved via chat" actor)) =
        mark (linked t clientId [taskId]) .approved (statuses t) :=
      statuses_modifyEventOf (approveEvent_sets _) found rfl
    rw [ih done, linked_of_planTasks (TaskBoard.modifyEventOf_planTasks t task _), first, mark_mark,
      ← linked_cons]

/-- The calendar after a loop of rejections. -/
theorem statuses_rejectEach {reason : String} {taskIds : List Uuid}
    (done : rejectEach now clientId reason actor t taskIds = .ok t') :
    statuses t' = mark (linked t clientId taskIds) .rejected (statuses t) := by
  induction taskIds generalizing t with
  | nil =>
    obtain rfl := Except.ok.inj done
    simp [linked, mark]
  | cons taskId rest ih =>
    simp only [rejectEach, Outcome.bind_ok] at done
    obtain ⟨task, read, done⟩ := done
    have found := PlanService.getTask_ok.mp read
    have links : linked (modifyEventOf (modifyTask t now taskId blocked) task
        (rejectEvent "rejected via chat: " reason actor)) clientId rest =
        linked t clientId rest := by
      rw [linked_of_planTasks (TaskBoard.modifyEventOf_planTasks _ task _)]
      exact linked_congr rest (blocked_keeps now) rfl
    have first : statuses (modifyEventOf (modifyTask t now taskId blocked) task
        (rejectEvent "rejected via chat: " reason actor)) =
        mark (linked t clientId [taskId]) .rejected (statuses t) :=
      statuses_modifyEventOf (rejectEvent_sets _ _) found rfl
    rw [ih done, links, first, mark_mark, ← linked_cons]

/-- The links of the tasks of a client. -/
def link (t : Tables) (clientId taskId : Uuid) : Option (Option Uuid) :=
  (t.getTask clientId taskId).map PlanTask.eventId

/-- A write to the event of a task leaves the links. -/
theorem link_of_planTasks (same : t'.planTasks = t.planTasks) :
    link t' clientId = link t clientId := by
  funext taskId
  rw [link, link, Tables.getTask, Tables.getTask, same]

/-- A write that keeps links, to a task. -/
theorem link_modifyTask (now : Timestamp) (taskId : Uuid) :
    link (modifyTask t now taskId blocked) clientId = link t clientId := by
  funext sought
  have read : (modifyTask t now taskId blocked).getTask clientId sought =
      (t.getTask clientId sought).map fun row =>
        if row.id = taskId then PlanTask.touch now row (blocked row) else row :=
    Table.get_modify_of_keeps (fun row => (blocked_keeps now row).1) (sought, clientId)
  rw [link, link, read, Option.map_map]
  congr 1
  funext row
  by_cases hit : row.id = taskId
  · simp [hit, (blocked_keeps now row).2]
  · simp [hit]

/-- The links after a loop of approvals. -/
theorem link_approveEach {taskIds : List Uuid}
    (done : approveEach clientId actor t taskIds = .ok t') : link t' clientId = link t clientId := by
  induction taskIds generalizing t with
  | nil => rw [Except.ok.inj done]
  | cons taskId rest ih =>
    simp only [approveEach, Outcome.bind_ok] at done
    obtain ⟨task, -, done⟩ := done
    exact (ih done).trans (link_of_planTasks (TaskBoard.modifyEventOf_planTasks t task _))

/-- The links after a loop of rejections. -/
theorem link_rejectEach {reason : String} {taskIds : List Uuid}
    (done : rejectEach now clientId reason actor t taskIds = .ok t') :
    link t' clientId = link t clientId := by
  induction taskIds generalizing t with
  | nil => rw [Except.ok.inj done]
  | cons taskId rest ih =>
    simp only [rejectEach, Outcome.bind_ok] at done
    obtain ⟨task, -, done⟩ := done
    rw [ih done, link_of_planTasks (TaskBoard.modifyEventOf_planTasks _ task _), link_modifyTask]

/-- A commit stores the links as they are. -/
theorem link_of_commit (committed : commit t = .ok db) :
    link db.tables clientId = link t clientId := by
  funext taskId
  rw [commit_ok committed, link, link, Tables.getTask_stored, Option.map_map]
  rfl

/-- A commit stores the statuses as they are. -/
theorem statuses_of_commit (committed : commit t = .ok db) : statuses db.tables = statuses t := by
  rw [commit_ok committed]
  rfl

/-- What a committed batch leaves: the events of its tasks with its outcome, and every link. -/
theorem batch_ok {verdict : Verdict} {taskIds : List Uuid}
    (done : verdict.batch now db clientId taskIds actor = .ok db') :
    statuses db'.tables =
        mark (linked db.tables clientId taskIds) verdict.outcome (statuses db.tables) ∧
      link db'.tables clientId = link db.tables clientId := by
  cases verdict with
  | approve =>
    obtain ⟨t, looped, committed⟩ := Outcome.bind_ok.mp done
    rw [statuses_of_commit committed, link_of_commit committed]
    exact ⟨statuses_approveEach looped, link_approveEach looped⟩
  | reject reason =>
    obtain ⟨t, looped, committed⟩ := Outcome.bind_ok.mp done
    rw [statuses_of_commit committed, link_of_commit committed]
    exact ⟨statuses_rejectEach looped, link_rejectEach looped⟩

/-- A loop of approvals finds tasks that are there. -/
theorem approveEach_total (actor : Uuid) {taskIds : List Uuid}
    (there : ∀ taskId ∈ taskIds, (t.getTask clientId taskId).isSome) :
    ∃ t', approveEach clientId actor t taskIds = .ok t' := by
  induction taskIds generalizing t with
  | nil => exact ⟨t, rfl⟩
  | cons taskId rest ih =>
    obtain ⟨first, later⟩ := List.forall_mem_cons.mp there
    obtain ⟨task, found⟩ := Option.isSome_iff_exists.mp first
    have same := TaskBoard.modifyEventOf_planTasks t task (approveEvent "approved via chat" actor)
    have go : ∃ t', approveEach clientId actor
        (modifyEventOf t task (approveEvent "approved via chat" actor)) rest = .ok t' := by
      apply ih
      intro other inside
      rw [Tables.getTask, same]
      exact later other inside
    simpa only [approveEach, PlanService.getTask_ok.mpr found, Outcome.ok_bind] using go

/-- A loop of rejections finds tasks that are there. -/
theorem rejectEach_total (now : Timestamp) (actor : Uuid) (reason : String) {taskIds : List Uuid}
    (there : ∀ taskId ∈ taskIds, (t.getTask clientId taskId).isSome) :
    ∃ t', rejectEach now clientId reason actor t taskIds = .ok t' := by
  induction taskIds generalizing t with
  | nil => exact ⟨t, rfl⟩
  | cons taskId rest ih =>
    obtain ⟨first, later⟩ := List.forall_mem_cons.mp there
    obtain ⟨task, found⟩ := Option.isSome_iff_exists.mp first
    have same := TaskBoard.modifyEventOf_planTasks (modifyTask t now taskId blocked) task
      (rejectEvent "rejected via chat: " reason actor)
    have go : ∃ t', rejectEach now clientId reason actor
        (modifyEventOf (modifyTask t now taskId blocked) task
          (rejectEvent "rejected via chat: " reason actor)) rest = .ok t' := by
      apply ih
      intro other inside
      have kept : link (modifyTask t now taskId blocked) clientId other = link t clientId other :=
        congrFun (link_modifyTask now taskId) other
      have stands := congrArg Option.isSome kept
      rw [link, link, Option.isSome_map, Option.isSome_map] at stands
      rw [Tables.getTask, same]
      exact stands.trans (later other inside)
    simpa only [rejectEach, PlanService.getTask_ok.mpr found, Outcome.ok_bind] using go

/-- A commit finds every task. -/
theorem commit_missing (t : Tables) : commit t ≠ .error (.app ⟨.notFound, "Task not found."⟩) := by
  unfold commit
  split
  · exact fun refused => (by cases refused)
  · exact fun refused => (by cases refused)

/-- A batch misses a task only when one is not there. -/
theorem batch_missing {verdict : Verdict} {taskIds : List Uuid}
    (there : ∀ taskId ∈ taskIds, (db.tables.getTask clientId taskId).isSome) :
    verdict.batch now db clientId taskIds actor ≠ .error (.app ⟨.notFound, "Task not found."⟩) := by
  cases verdict with
  | approve =>
    obtain ⟨t, looped⟩ := approveEach_total actor there
    simpa only [Verdict.batch, approveBatch, looped, Outcome.ok_bind] using commit_missing t
  | reject reason =>
    obtain ⟨t, looped⟩ := rejectEach_total now actor reason there
    simpa only [Verdict.batch, rejectBatch, looped, Outcome.ok_bind] using commit_missing t

/-! ## The card -/

variable {draft : Draft}

variable (draft) in
/-- The status on the card. -/
def World.status (w : World) : Option Json := w.chats.cardStatus draft.chatId draft.messageId

variable (draft) in
/-- The card as a drafted message carries it: with the tasks, and a status. -/
def Card (chats : Chats) (status : String) : Prop :=
  ∃ message fields, chats.getMessage draft.chatId draft.messageId = some message ∧
    message.action = .obj fields ∧ fields.lookup "status" = some (.str status) ∧
    taskIds fields = .ok draft.taskIds

/-- A field is read as it was set. -/
theorem lookup_setField_same (key : String) (value : Json) (fields : List (String × Json)) :
    (setField key value fields).lookup key = some value := by
  induction fields with
  | nil => simp [setField]
  | cons field rest ih =>
    obtain ⟨name, old⟩ := field
    by_cases same : name = key
    · simp [setField, same]
    · have apart : (key == name) = false := beq_false_of_ne (Ne.symm same)
      simp only [setField, if_neg same, List.lookup_cons, apart, ih]

/-- Another field is read as it was. -/
theorem lookup_setField_other {key other : String} (apart : other ≠ key) (value : Json)
    (fields : List (String × Json)) :
    (setField key value fields).lookup other = fields.lookup other := by
  have skip : (other == key) = false := beq_false_of_ne apart
  induction fields with
  | nil => simp only [setField, List.lookup_cons, skip, List.lookup_nil]
  | cons field rest ih =>
    obtain ⟨name, old⟩ := field
    by_cases same : name = key
    · subst same
      simp only [setField, ↓reduceIte, List.lookup_cons, skip]
    · simp only [setField, if_neg same, List.lookup_cons, ih]

/-- The status on a card. -/
theorem Card.status {w : World} {status : String} (card : Card draft w.chats status) :
    w.status draft = some (.str status) := by
  obtain ⟨message, fields, found, action, stored, -⟩ := card
  simp only [World.status, Chats.cardStatus, found, Option.bind_some, action, stored]

/-- A card that is written carries the status written. -/
theorem Card.write {chats : Chats} {old : String} (card : Card draft chats old) (status : String) :
    Card draft (chats.setActionStatus draft.messageId status) status := by
  obtain ⟨message, fields, found, action, -, tasks⟩ := card
  have own : message.id = draft.messageId := congrArg Prod.fst (Table.get_key found)
  have keeps (row : AiChatMessage) : (Chats.withStatus status row).scoped = row.scoped := rfl
  have read : (chats.setActionStatus draft.messageId status).getMessage draft.chatId
      draft.messageId = (chats.getMessage draft.chatId draft.messageId).map fun row =>
        if row.id = draft.messageId then Chats.withStatus status row else row :=
    Table.get_modify_of_keeps keeps (draft.messageId, draft.chatId)
  refine ⟨Chats.withStatus status message, setField "status" (.str status) fields, ?_, ?_, ?_, ?_⟩
  · rw [read, found, Option.map_some, if_pos own]
  · simp only [AiChatMessage.action, Chats.withStatus, Option.getD_some, lookup_setField_same]
    simp only [AiChatMessage.action] at action
    rw [action]
  · exact lookup_setField_same _ _ _
  · rw [taskIds, lookup_setField_other (by decide)]
    exact tasks

/-- A card that is not pending turns a call away. -/
theorem Card.tasks_of_pending {chats : Chats} {status : String} (card : Card draft chats status)
    {ids : List Uuid}
    (read : chats.requirePendingActionMessage draft.clientId draft.chatId draft.messageId =
      .ok ids) : status = "pending" ∧ ids = draft.taskIds := by
  obtain ⟨message, fields, found, action, stored, tasks⟩ := card
  obtain ⟨-, -, read⟩ := Outcome.bind_ok.mp read
  simp only [found, action, stored] at read
  split at read
  · cases read
  · split at read
    · cases read
    next pending =>
      have same : some (Json.str status) = some (.str "pending") := not_not.mp pending
      exact ⟨Json.str.inj (Option.some.inj same), Except.ok.inj (read.symm.trans tasks)⟩

/-! ## Steps -/

variable (draft) in
/-- What one step does. -/
inductive Step (w : World) : Label → World → Prop where
  | entered (c : Nat) (verdict : Verdict) (actor : User) (was : w.calls[c]? = some .idle) :
      Step w (.read c verdict actor) (w.move c (enter draft w verdict actor))
  | applied (c : Nat) (now : Timestamp) (verdict : Verdict) (actor : User) (ids : List Uuid)
      (db : Database) (was : w.calls[c]? = some (.admitted verdict actor ids))
      (done : verdict.batch now w.db draft.clientId ids actor.id = .ok db) :
      Step w (.apply c now) { w.move c (.applied verdict) with db }
  | failed (c : Nat) (now : Timestamp) (verdict : Verdict) (actor : User) (ids : List Uuid)
      (exc : Exc) (was : w.calls[c]? = some (.admitted verdict actor ids))
      (refused : verdict.batch now w.db draft.clientId ids actor.id = .error exc) :
      Step w (.apply c now) (w.move c (.failed exc))
  | wrote (c : Nat) (verdict : Verdict) (was : w.calls[c]? = some (.applied verdict)) :
      Step w (.write c) { w.move c (.done verdict) with
        chats := w.chats.setActionStatus draft.messageId verdict.status }
  | deleted (clientId taskId : Uuid) (db : Database)
      (done : PlanService.deleteTask w.db clientId taskId = .ok db) :
      Step w (.delete clientId taskId) { w with db }
  | edited (eventId : Uuid) (edit : EventEdit) (db : Database)
      (done : commit (w.db.tables.modifyEvent eventId edit.change) = .ok db) :
      Step w (.edit eventId edit) { w with db, edited := w.edited ++ [eventId] }

/-- The inversion of the step function. -/
theorem step_of_next {w w' : World} {label : Label} (taken : next draft w label = some w') :
    Step draft w label w' := by
  cases label with
  | read c verdict actor =>
    simp only [next] at taken
    split at taken
    · next was => exact Option.some.inj taken ▸ .entered c verdict actor was
    · cases taken
  | apply c now =>
    simp only [next] at taken
    split at taken
    · next verdict actor ids was =>
      split at taken
      · next db done => exact Option.some.inj taken ▸ .applied c now verdict actor ids db was done
      · next exc refused =>
        exact Option.some.inj taken ▸ .failed c now verdict actor ids exc was refused
    · cases taken
  | write c =>
    simp only [next] at taken
    split at taken
    · next verdict was => exact Option.some.inj taken ▸ .wrote c verdict was
    · cases taken
  | delete clientId taskId =>
    simp only [next] at taken
    split at taken
    · next db done => exact Option.some.inj taken ▸ .deleted clientId taskId db done
    · cases taken
  | edit eventId edit =>
    simp only [next] at taken
    split at taken
    · next db done => exact Option.some.inj taken ▸ .edited eventId edit db done
    · cases taken

/-! ## What holds of the card -/

/-- The batch of a call is committed. -/
def Reviewed (w : World) (c : Nat) (verdict : Verdict) : Prop :=
  w.calls[c]? = some (.applied verdict) ∨ w.calls[c]? = some (.done verdict)

/-- The exception of a call that misses a task. -/
def taskMissing : Exc := .app ⟨.notFound, "Task not found."⟩

/-- The verdict of a call that has read the card and not reviewed the tasks. -/
def Call.admittedTo : Call → Option Verdict
  | .admitted verdict _ _ => some verdict
  | _ => none

/-- The verdict of a call whose batch is committed. -/
def Call.committed : Call → Option Verdict
  | .applied verdict => some verdict
  | .done verdict => some verdict
  | _ => none

/-- A reviewed call is one of the calls whose batch is committed. -/
theorem Reviewed.committed {w : World} {c : Nat} {verdict : Verdict}
    (reviewed : Reviewed w c verdict) : ∃ call ∈ w.calls, call.committed = some verdict := by
  rcases reviewed with at' | at'
  · exact ⟨_, List.mem_of_getElem? at', rfl⟩
  · exact ⟨_, List.mem_of_getElem? at', rfl⟩

variable (draft) in
/-- A batch is applied only while every task of the card is there, and not against the verdict of
a batch that is committed. -/
def Uncontested (w : World) : Label → Prop
  | .apply c _ =>
    (∀ taskId ∈ draft.taskIds, (w.db.tables.getTask draft.clientId taskId).isSome) ∧
      ∀ verdict ∈ w.calls[c]?.bind Call.admittedTo,
        ∀ call ∈ w.calls, ∀ other ∈ call.committed, other.status = verdict.status
  | _ => True

instance (w : World) (label : Label) : Decidable (Uncontested draft w label) :=
  match label with
  | .apply c _ =>
    have : Decidable (∀ taskId ∈ draft.taskIds,
        (w.db.tables.getTask draft.clientId taskId).isSome = true) := List.decidableBAll _ _
    inferInstanceAs (Decidable (_ ∧ ∀ verdict ∈ w.calls[c]?.bind Call.admittedTo,
      ∀ call ∈ w.calls, ∀ other ∈ call.committed, other.status = verdict.status))
  | .read .. | .write _ | .delete .. | .edit .. => .isTrue trivial

variable (draft) in
/-- The card carries the verdict of the calls that wrote it, and the events it was drafted with
that of the calls that reviewed them. -/
structure Sound (w : World) : Prop where
  card : ∃ status, Card draft w.chats status ∧
    (status = "pending" ∧
        (∀ (c : Nat) (verdict : Verdict), w.calls[c]? ≠ some (Call.done verdict)) ∨
      ∃ (c : Nat) (verdict : Verdict),
        w.calls[c]? = some (Call.done verdict) ∧ status = verdict.status)
  admitted : ∀ (c : Nat) (verdict : Verdict) (actor : User) (ids : List Uuid),
    w.calls[c]? = some (Call.admitted verdict actor ids) → ids = draft.taskIds
  agree : ∀ c c' first last, Reviewed w c first → Reviewed w c' last → first.status = last.status
  links : ∀ taskId ∈ draft.taskIds, link w.db.tables draft.clientId taskId = none ∨
    link w.db.tables draft.clientId taskId = link draft.origin draft.clientId taskId
  effect : ∀ c verdict, Reviewed w c verdict → ∀ row ∈ statuses w.db.tables,
    row.1 ∈ drafted draft → row.1 ∉ w.edited → row.2 = verdict.outcome
  present : ∀ c : Nat, w.calls[c]? ≠ some (Call.failed taskMissing)

/-- A verdict's status names its outcome. -/
theorem outcome_of_status {first last : Verdict} (same : first.status = last.status) :
    first.outcome = last.outcome := by
  have apart : "approved" ≠ "rejected" := by decide
  cases first <;> cases last
  · rfl
  · exact absurd same apart
  · exact absurd same.symm apart
  · rfl

/-- A call that moves to a state is found there, and every other call where it was. -/
theorem call_of_move {w : World} {c c' : Nat} {call found : Call}
    (at' : (w.move c call).calls[c']? = some found) :
    (c' = c ∧ found = call) ∨ (c' ≠ c ∧ w.calls[c']? = some found) := by
  simp only [World.move, List.getElem?_set] at at'
  split at at'
  · next same =>
    split at at'
    · exact .inl ⟨same.symm, (Option.some.inj at').symm⟩
    · cases at'
  · next apart => exact .inr ⟨fun same => apart same.symm, at'⟩

/-- A call that moves leaves every other call. -/
theorem call_kept {w : World} {c c' : Nat} {call : Call} (apart : c' ≠ c) :
    (w.move c call).calls[c']? = w.calls[c']? := by
  simp only [World.move, List.getElem?_set_ne (Ne.symm apart)]

namespace Sound

variable {w : World} (sound : Sound draft w)

include sound

/-- A call that comes no further than its gate or its batch leaves the invariant. -/
theorem move {c : Nat} {call : Call}
    (before : ∀ verdict, ¬Reviewed w c verdict)
    (waits : ∀ verdict : Verdict, call ≠ .applied verdict ∧ call ≠ .done verdict)
    (ids : ∀ verdict actor ids, call = .admitted verdict actor ids → ids = draft.taskIds)
    (other : call ≠ .failed taskMissing) : Sound draft (w.move c call) := by
  have reviewed {c' : Nat} {verdict : Verdict} (after : Reviewed (w.move c call) c' verdict) :
      Reviewed w c' verdict := by
    rcases after with at' | at'
    · rcases call_of_move at' with ⟨-, same⟩ | ⟨-, was⟩
      · exact absurd same.symm (waits verdict).1
      · exact .inl was
    · rcases call_of_move at' with ⟨-, same⟩ | ⟨-, was⟩
      · exact absurd same.symm (waits verdict).2
      · exact .inr was
  refine ⟨?_, ?_, ?_, sound.links, ?_, ?_⟩
  · obtain ⟨status, card, how⟩ := sound.card
    refine ⟨status, card, ?_⟩
    rcases how with ⟨pending, none⟩ | ⟨c', verdict, was, same⟩
    · refine .inl ⟨pending, fun c' verdict at' => ?_⟩
      rcases reviewed (.inr at') with was | was
      · rcases call_of_move at' with ⟨-, same⟩ | ⟨-, other⟩
        · exact (waits verdict).2 same.symm
        · exact none c' verdict other
      · exact none c' verdict was
    · refine .inr ⟨c', verdict, ?_, same⟩
      rw [call_kept]
      · exact was
      · rintro rfl
        exact before verdict (.inr was)
  · intro c' verdict actor ids' at'
    rcases call_of_move at' with ⟨-, same⟩ | ⟨-, was⟩
    · exact ids verdict actor ids' same.symm
    · exact sound.admitted c' verdict actor ids' was
  · exact fun c' c'' first last one two => sound.agree c' c'' first last (reviewed one) (reviewed two)
  · exact fun c' verdict at' => sound.effect c' verdict (reviewed at')
  · intro c' at'
    rcases call_of_move at' with ⟨-, same⟩ | ⟨-, was⟩
    · exact other same.symm
    · exact sound.present c' was

/-- While every task of the draft is there, they are linked to the events it was drafted with. -/
theorem linked_eq_drafted
    (there : ∀ taskId ∈ draft.taskIds, (w.db.tables.getTask draft.clientId taskId).isSome) :
    linked w.db.tables draft.clientId draft.taskIds = drafted draft := by
  unfold linked drafted
  apply List.filterMap_congr
  intro taskId inside
  obtain ⟨task, found⟩ := Option.isSome_iff_exists.mp (there taskId inside)
  rcases sound.links taskId inside with gone | kept
  · simp [link, found] at gone
  · simp only [link, found, Option.map_some] at kept
    obtain ⟨origin, read, same⟩ := Option.map_eq_some_iff.mp kept.symm
    rw [found, read]
    exact same.symm

/-- A call that runs its gate. -/
theorem entered {c : Nat} {verdict : Verdict} {actor : User} (was : w.calls[c]? = some .idle) :
    Sound draft (w.move c (enter draft w verdict actor)) := by
  obtain ⟨status, card, -⟩ := sound.card
  have before (verdict : Verdict) : ¬Reviewed w c verdict := by
    rintro (at' | at') <;> rw [was] at at' <;> cases at'
  have shape : (∃ exc, enter draft w verdict actor = .turnedAway exc) ∨
      enter draft w verdict actor = .admitted verdict actor draft.taskIds := by
    unfold enter
    split
    · exact .inl ⟨_, rfl⟩
    · split
      · next ids read => exact .inr (by rw [(card.tasks_of_pending read).2])
      · exact .inl ⟨_, rfl⟩
  rcases shape with ⟨exc, shape⟩ | shape <;> rw [shape]
  · apply sound.move before
    · exact fun _ => ⟨by simp, by simp⟩
    · intro _ _ _ same
      cases same
    · simp
  · apply sound.move before
    · exact fun _ => ⟨by simp, by simp⟩
    · intro _ _ _ same
      cases same
      rfl
    · simp

/-- A batch that raises. -/
theorem failed {c : Nat} {now : Timestamp} {verdict : Verdict} {actor : User} {ids : List Uuid}
    {exc : Exc} (was : w.calls[c]? = some (.admitted verdict actor ids))
    (refused : verdict.batch now w.db draft.clientId ids actor.id = .error exc)
    (there : ∀ taskId ∈ draft.taskIds, (w.db.tables.getTask draft.clientId taskId).isSome) :
    Sound draft (w.move c (.failed exc)) := by
  obtain rfl := sound.admitted c verdict actor ids was
  have before (verdict : Verdict) : ¬Reviewed w c verdict := by
    rintro (at' | at') <;> rw [was] at at' <;> cases at'
  apply sound.move before
  · exact fun _ => ⟨by simp, by simp⟩
  · intro _ _ _ same
    cases same
  · intro same
    obtain rfl := Call.failed.inj same
    exact batch_missing there refused

/-- A batch that is committed. -/
theorem applied {c : Nat} {now : Timestamp} {verdict : Verdict} {actor : User} {ids : List Uuid}
    {db : Database} (was : w.calls[c]? = some (.admitted verdict actor ids))
    (done : verdict.batch now w.db draft.clientId ids actor.id = .ok db)
    (there : ∀ taskId ∈ draft.taskIds, (w.db.tables.getTask draft.clientId taskId).isSome)
    (agrees : ∀ c' other, Reviewed w c' other → other.status = verdict.status) :
    Sound draft { w.move c (.applied verdict) with db } := by
  obtain rfl := sound.admitted c verdict actor ids was
  obtain ⟨marked, links⟩ := batch_ok done
  rw [sound.linked_eq_drafted there] at marked
  have reviewed {c' : Nat} {other : Verdict}
      (after : Reviewed { w.move c (.applied verdict) with db } c' other) :
      other.status = verdict.status := by
    rcases after with at' | at'
    · rcases call_of_move at' with ⟨-, same⟩ | ⟨-, old⟩
      · rw [(Call.applied.inj same)]
      · exact agrees c' other (.inl old)
    · rcases call_of_move at' with ⟨-, same⟩ | ⟨-, old⟩
      · cases same
      · exact agrees c' other (.inr old)
  refine ⟨?_, ?_, ?_, ?_, ?_, ?_⟩
  · obtain ⟨status, card, how⟩ := sound.card
    refine ⟨status, card, ?_⟩
    rcases how with ⟨pending, none⟩ | ⟨c', other, old, same⟩
    · refine .inl ⟨pending, fun c' other at' => ?_⟩
      rcases call_of_move at' with ⟨-, same⟩ | ⟨-, old⟩
      · cases same
      · exact none c' other old
    · refine .inr ⟨c', other, ?_, same⟩
      have apart : c' ≠ c := by
        rintro rfl
        rw [was] at old
        cases old
      exact (call_kept apart).trans old
  · intro c' other actor' ids' at'
    rcases call_of_move at' with ⟨-, same⟩ | ⟨-, old⟩
    · cases same
    · exact sound.admitted c' other actor' ids' old
  · exact fun c' c'' first last one two => (reviewed one).trans (reviewed two).symm
  · intro taskId inside
    simp only [links]
    exact sound.links taskId inside
  · intro c' other after row inside ours unedited
    rw [outcome_of_status (reviewed after)]
    rw [marked] at inside
    obtain ⟨old, -, rfl⟩ := List.mem_map.mp inside
    by_cases hit : old.1 ∈ drafted draft
    · rw [if_pos hit]
    · rw [if_neg hit] at ours
      exact absurd ours hit
  · intro c' at'
    rcases call_of_move at' with ⟨-, same⟩ | ⟨-, old⟩
    · cases same
    · exact sound.present c' old

/-- A card that is written. -/
theorem wrote {c : Nat} {verdict : Verdict} (was : w.calls[c]? = some (.applied verdict)) :
    Sound draft { w.move c (.done verdict) with
      chats := w.chats.setActionStatus draft.messageId verdict.status } := by
  have reviewed {c' : Nat} {other : Verdict}
      (after : Reviewed { w.move c (.done verdict) with
        chats := w.chats.setActionStatus draft.messageId verdict.status } c' other) :
      Reviewed w c' other := by
    rcases after with at' | at'
    · rcases call_of_move at' with ⟨-, same⟩ | ⟨-, old⟩
      · cases same
      · exact .inl old
    · rcases call_of_move at' with ⟨rfl, same⟩ | ⟨-, old⟩
      · rw [Call.done.inj same]
        exact .inl was
      · exact .inr old
  refine ⟨?_, ?_, ?_, sound.links, ?_, ?_⟩
  · obtain ⟨status, card, -⟩ := sound.card
    refine ⟨verdict.status, card.write verdict.status, .inr ⟨c, verdict, ?_, rfl⟩⟩
    obtain ⟨long, -⟩ := List.getElem?_eq_some_iff.mp was
    exact List.getElem?_set_self long
  · intro c' other actor ids at'
    rcases call_of_move at' with ⟨-, same⟩ | ⟨-, old⟩
    · cases same
    · exact sound.admitted c' other actor ids old
  · exact fun c' c'' first last one two =>
      sound.agree c' c'' first last (reviewed one) (reviewed two)
  · exact fun c' other after => sound.effect c' other (reviewed after)
  · intro c' at'
    rcases call_of_move at' with ⟨-, same⟩ | ⟨-, old⟩
    · cases same
    · exact sound.present c' old

/-- A task another user deletes. -/
theorem deleted {clientId taskId : Uuid} {db : Database}
    (done : PlanService.deleteTask w.db clientId taskId = .ok db) :
    Sound draft { w with db } := by
  obtain ⟨removed, made, committed⟩ := Outcome.bind_ok.mp done
  obtain ⟨-, tables⟩ := PlanService.applyDeleteTask_ok made
  refine ⟨sound.card, sound.admitted, sound.agree, ?_, ?_, sound.present⟩
  · intro sought inside
    rw [link_of_commit committed, tables]
    cases read : Table.get PlanTask.scoped (Table.remove PlanTask.id taskId w.db.tables.planTasks)
        (sought, draft.clientId) with
    | none => exact .inl (by rw [link, Tables.getTask, read]; rfl)
    | some task =>
      have before : w.db.tables.getTask draft.clientId sought = some task :=
        Table.get_of_get_remove (fun _ _ same => congrArg Prod.fst same) read
      have same : link w.db.tables draft.clientId sought = some task.eventId := by
        rw [link, before, Option.map_some]
      have stays := sound.links sought inside
      rw [same] at stays
      rw [link, Tables.getTask, read]
      exact stays
  · intro c verdict after row inside
    rw [statuses_of_commit committed, tables] at inside
    exact sound.effect c verdict after row inside

/-- An event another user edits. -/
theorem edited {eventId : Uuid} {edit : EventEdit} {db : Database}
    (done : commit (w.db.tables.modifyEvent eventId edit.change) = .ok db) :
    Sound draft { w with db, edited := w.edited ++ [eventId] } := by
  refine ⟨sound.card, sound.admitted, sound.agree, ?_, ?_, sound.present⟩
  · intro taskId inside
    have same : link (w.db.tables.modifyEvent eventId edit.change) draft.clientId =
        link w.db.tables draft.clientId := link_of_planTasks rfl
    rw [link_of_commit done, same]
    exact sound.links taskId inside
  · intro c verdict after row inside ours unedited
    rw [statuses_of_commit done] at inside
    obtain ⟨event, stored, rfl⟩ := List.mem_map.mp inside
    obtain ⟨old, before, rfl⟩ := List.mem_map.mp stored
    have other : old.id ≠ eventId := by
      rintro rfl
      apply unedited
      simp [edit.keeps]
    rw [if_neg other] at ours unedited ⊢
    apply sound.effect c verdict after _ (List.mem_map_of_mem before) ours
    exact fun early => unedited (List.mem_append_left _ early)

/-- Every step that is not contested keeps the invariant. -/
theorem step {label : Label} {w' : World} (allowed : Uncontested draft w label)
    (taken : next draft w label = some w') : Sound draft w' := by
  cases step_of_next taken with
  | entered c verdict actor was => exact sound.entered was
  | applied c now verdict actor ids db was done =>
    apply sound.applied was done allowed.1
    intro c' other reviewed
    obtain ⟨call, inside, same⟩ := reviewed.committed
    exact allowed.2 verdict (by rw [was]; rfl) call inside other same
  | failed c now verdict actor ids exc was refused => exact sound.failed was refused allowed.1
  | wrote c verdict was => exact sound.wrote was
  | deleted clientId taskId db done => exact sound.deleted done
  | edited eventId edit db done => exact sound.edited done

/-- A card that has left pending keeps its status. -/
theorem status_step {label : Label} {w' : World} (resolved : w.status draft ≠ some (.str "pending"))
    (taken : next draft w label = some w') : w'.status draft = w.status draft := by
  cases step_of_next taken with
  | entered | applied | failed | deleted | edited => rfl
  | wrote c verdict was =>
    obtain ⟨status, card, how⟩ := sound.card
    rcases how with ⟨rfl, -⟩ | ⟨c', other, finished, rfl⟩
    · exact absurd card.status resolved
    · have same := sound.agree c' c other verdict (.inr finished) (.inl was)
      rw [card.status, same]
      exact Card.status (card.write verdict.status)

end Sound

/-- An unreviewed draft meets the invariant. -/
theorem sound_of_start {w : World} (first : Start draft w) : Sound draft w := by
  obtain ⟨⟨message, fields, found, action, pending, tasks⟩, tables, calls⟩ := first
  have idle {c : Nat} {call : Call} (at' : w.calls[c]? = some call) : call = .idle :=
    calls call (List.mem_of_getElem? at')
  have unread {c : Nat} {verdict : Verdict} : ¬Reviewed w c verdict := by
    rintro (at' | at')
    · cases idle at'
    · cases idle at'
  refine ⟨⟨"pending", ⟨message, fields, found, action, pending, tasks⟩, .inl ⟨rfl, ?_⟩⟩, ?_, ?_, ?_,
    ?_, ?_⟩
  · exact fun c verdict at' => unread (.inr at')
  · intro c verdict actor ids at'
    cases idle at'
  · exact fun c c' first last one _ => absurd one unread
  · exact fun taskId _ => .inr (by rw [tables])
  · exact fun c verdict after => absurd after unread
  · intro c at'
    cases idle at'

/-- The invariant holds as long as nothing is contested. -/
theorem sound_of_reachable {w : World}
    (reached : (machine draft).Reachable (Uncontested draft) w) : Sound draft w :=
  reached.invariant (Sound draft) (fun _ first => sound_of_start first)
    fun _ _ _ sound allowed taken => sound.step allowed taken

/-- A card that has left pending keeps its status in every later run. -/
theorem Sound.status_run {w w' : World} {labels : List Label} (sound : Sound draft w)
    (resolved : w.status draft ≠ some (.str "pending"))
    (run : (machine draft).Run (Uncontested draft) w labels w') :
    w'.status draft = w.status draft := by
  have step (s : World) (label : Label) (s' : World)
      (before : Sound draft s ∧ s.status draft = w.status draft)
      (allowed : Uncontested draft s label) (taken : (machine draft).next s label = some s') :
      Sound draft s' ∧ s'.status draft = w.status draft :=
    ⟨before.1.step allowed taken,
      (before.1.status_step (before.2 ▸ resolved) taken).trans before.2⟩
  exact (run.preserves step ⟨sound, rfl⟩).2

/-- A card with the status of a verdict is written by a call with that verdict. -/
theorem Sound.effect_of_status {w : World} {verdict : Verdict} (sound : Sound draft w)
    (shown : w.status draft = some (.str verdict.status)) :
    ∀ row ∈ statuses w.db.tables, row.1 ∈ drafted draft → row.1 ∉ w.edited →
      row.2 = verdict.outcome := by
  intro row inside ours unedited
  obtain ⟨status, card, how⟩ := sound.card
  have same : verdict.status = status :=
    Json.str.inj (Option.some.inj (shown.symm.trans card.status))
  rcases how with ⟨rfl, -⟩ | ⟨c, other, finished, rfl⟩
  · have open' : "approved" ≠ "pending" ∧ "rejected" ≠ "pending" := by decide
    cases verdict with
    | approve => exact absurd same open'.1
    | reject reason => exact absurd same open'.2
  · rw [outcome_of_status same]
    exact sound.effect c other (.inr finished) row inside ours unedited

/-- **Drafts resolved once.** As long as no batch is applied against the verdict of a committed one,
or while a task of the card is gone, the card leaves pending once, the events it was drafted with
that nobody edits have the outcome on it, and no call fails for a task that is gone. -/
theorem resolved_once (draft : Draft) (w : World)
    (reached : (machine draft).Reachable (Uncontested draft) w) :
    (∀ labels w', (machine draft).Run (Uncontested draft) w labels w' →
      w.status draft ≠ some (.str "pending") → w'.status draft = w.status draft) ∧
    (∀ verdict : Verdict, w.status draft = some (.str verdict.status) →
      ∀ event ∈ w.db.tables.events, event.id ∈ drafted draft → event.id ∉ w.edited →
        event.approvalStatus = verdict.outcome) ∧
    ∀ c : Nat, w.calls[c]? ≠ some (Call.failed taskMissing) := by
  have sound := sound_of_reachable reached
  refine ⟨?_, ?_, sound.present⟩
  · exact fun labels w' run resolved => sound.status_run resolved run
  · intro verdict shown event stored ours unedited
    exact sound.effect_of_status shown (event.id, event.approvalStatus)
      (List.mem_map_of_mem stored) ours unedited

/-- The sample tables with one drafted item: task 51, linked to event 50. -/
def sampleDrafted : Database where
  tables := { sampleTables [] with
    planTasks := [sampleTask, { sampleTask with id := 51, eventId := some 50 }]
    events := [draftEvent ⟨50, 51⟩ 2 (some 1) ApprovalRecord.sampleDraft] }
  consistent := by decide
  columns := rfl

/-- The card of the sample draft. -/
def sampleCard : AiChatMessage :=
  ⟨71, 70, some [("action", .obj [("type", .str "plan_draft"), ("status", .str "pending"),
    ("task_ids", .arr [.str (Uuid.print 51)])])]⟩

/-- The sample draft. -/
def sample : Draft := ⟨2, 70, 71, [51], sampleDrafted.tables⟩

/-- Two idle calls on the sample draft. -/
def sampleWorld : World := ⟨sampleDrafted, ⟨[⟨70, 2⟩], [sampleCard]⟩, [.idle, .idle], []⟩

/-- The sample draft is unreviewed. -/
theorem sampleWorld_start : Start sample sampleWorld := by
  refine ⟨⟨sampleCard, _, rfl, rfl, rfl, ?_⟩, rfl, by decide⟩
  decide +kernel

/-- What is shown of a state. -/
structure View where
  card : Option String
  calls : List Call
  edited : List Uuid
  events : List (Uuid × ApprovalStatus)
deriving DecidableEq

variable (draft) in
/-- The view of a state. -/
def World.view (w : World) : View where
  card := (w.status draft).bind fun status => match status with | .str text => some text | _ => none
  calls := w.calls
  edited := w.edited
  events := statuses w.db.tables

/-- The status on the card, as it is shown. -/
theorem status_of_view {w : World} {text : String} (same : (w.view draft).card = some text) :
    w.status draft = some (.str text) := by
  obtain ⟨status, card, read⟩ := Option.bind_eq_some_iff.mp same
  cases status with
  | str shown => rw [card, Option.some.inj read]
  | null | bool | int | arr | obj => cases read

/-- An approval that is not contested, and a rejection that comes late. -/
def sampleReview : List Label :=
  [.read 0 .approve sampleAdmin, .apply 0 1, .write 0, .read 1 (.reject "Off brand") sampleAdmin]

/-- After the approval the card says approved, and so does the event. -/
theorem sample_resolved :
    ∃ w, (machine sample).Reachable (Uncontested sample) w ∧
      w.status sample = some (.str "approved") ∧
      ∀ event ∈ w.db.tables.events, event.id ∈ drafted sample → event.id ∉ w.edited →
        event.approvalStatus = .approved := by
  have played : ((machine sample).play (Uncontested sample) sampleWorld sampleReview).map
      (fun w => (w.view sample).card) = some (some "approved") := by decide +kernel
  obtain ⟨w, run, card⟩ := Option.map_eq_some_iff.mp played
  have reached : (machine sample).Reachable (Uncontested sample) w :=
    ⟨sampleWorld, sampleReview, sampleWorld_start, Machine.run_of_play run⟩
  have approved := status_of_view card
  exact ⟨w, reached, approved, (resolved_once sample w reached).2.1 .approve approved⟩

/-- Both calls read the card before either reviews the tasks. -/
def sampleCrossing : List Label :=
  [.read 0 .approve sampleAdmin, .read 1 (.reject "Off brand") sampleAdmin, .apply 0 1, .apply 1 2,
    .write 1]

/-- Two calls that read the card before either reviews: the card changes from rejected to approved,
and the events stay rejected. -/
theorem crossed_verdicts :
    ∃ w w', Start sample sampleWorld ∧
      (machine sample).play Machine.anyStep sampleWorld sampleCrossing = some w ∧
      next sample w (.write 0) = some w' ∧
      w.status sample = some (.str "rejected") ∧ w'.status sample = some (.str "approved") ∧
      w'.calls = [.done .approve, .done (.reject "Off brand")] ∧
      drafted sample = [50] ∧ w'.edited = [] ∧ statuses w'.db.tables = [(50, .rejected)] := by
  have played : ((machine sample).play Machine.anyStep sampleWorld sampleCrossing).bind
      (fun w => (next sample w (.write 0)).map fun w' => (w.view sample, w'.view sample)) =
      some (⟨some "rejected", [.applied .approve, .done (.reject "Off brand")], [], [(50, .rejected)]⟩,
        ⟨some "approved", [.done .approve, .done (.reject "Off brand")], [], [(50, .rejected)]⟩) := by
    decide +kernel
  obtain ⟨w, run, later⟩ := Option.bind_eq_some_iff.mp played
  obtain ⟨w', last, same⟩ := Option.map_eq_some_iff.mp later
  obtain ⟨before, after⟩ := Prod.mk.inj same
  refine ⟨w, w', sampleWorld_start, run, last, ?_, ?_, ?_, by decide +kernel, ?_, ?_⟩
  · exact status_of_view (congrArg View.card before)
  · exact status_of_view (congrArg View.card after)
  · exact congrArg View.calls after
  · exact congrArg View.edited after
  · exact congrArg View.events after

end MarketingOS.PlanDraft
