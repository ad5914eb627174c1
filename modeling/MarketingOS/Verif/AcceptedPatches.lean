import MarketingOS.Verif.Approval

/-!
# Accepted patches

Whether what a request schema accepts for a task or a client can be stored. Every column of a patch
may be sent as null, while some columns of the row may not be null, and the schema of a client
admits longer names than its table. Both services write what was sent, so a patch can be stored
exactly when it sends no null for such a column and no name that is too long.
-/
namespace MarketingOS

/-- A write either raises an `AppError` or leaves rows that are fit for their table. -/
def Handled {ρ : Type} (fit : Applied ρ → Prop) : Outcome (Applied ρ) → Prop
  | .ok applied => fit applied
  | .error (.app _) => True
  | .error (.other _) => False

/-- The `NOT NULL` and length constraints of `plan_tasks`. -/
def PlanTask.Complete (task : PlanTask) : Prop :=
  task.title.isSome ∧ fits 200 task.title ∧ task.category.isSome ∧ task.status.isSome ∧
    task.priority.isSome ∧ task.archived.isSome

/-- The `NOT NULL` and length constraints of `clients`. -/
def Client.Complete (client : Client) : Prop :=
  client.name.isSome ∧ fits 160 client.name ∧ client.status.isSome ∧
    fits 120 client.businessType ∧ fits 120 client.industry ∧ fits 255 client.website ∧
    fits 160 client.location ∧ fits 60 client.timezone ∧ fits 60 client.language

/-- A patch of a task that sends no null for a column that may not be null. -/
def PlanTaskUpdate.NoNulls (data : PlanTaskUpdate) : Prop :=
  data.title ≠ some none ∧ data.category ≠ some none ∧ data.status ≠ some none ∧
    data.priority ≠ some none ∧ data.archived ≠ some none

/-- A patch that is refused for an inverted range, or can be compared with the stored clock times
and sends no null for a column that may not be null. -/
def PlanTaskUpdate.FitsTask (data : PlanTaskUpdate) (task : PlanTask) : Prop :=
  datesInverted (data.startDate.onto task.startDate) (data.dueDate.onto task.dueDate) = true ∨
    ∃ inverted, timesInverted (data.startTime.onto task.startTime)
      (data.endTime.onto task.endTime) = some inverted ∧ (inverted = true ∨ data.NoNulls)

/-- A patch of a client that sends no null for the name or the status, and no name of more than
160 characters. -/
def ClientUpdate.FitsClient {env : Environment} (data : ClientUpdate env) : Prop :=
  data.name ≠ some none ∧ data.status ≠ some none ∧
    ∀ name, data.name = some (some name) → name.val.length ≤ 160

namespace Patch

variable {α : Type} {patch : Patch α} {stored : Option α}

/-- A column that holds a value goes on holding one unless null is sent. -/
theorem isSome_onto (filled : stored.isSome) : (patch.onto stored).isSome ↔ patch ≠ some none := by
  cases patch with
  | none => simpa [onto] using filled
  | some sent => cases sent <;> simp [onto]

/-- The text of a patch is null where the patch is. -/
theorem text_eq_null {lower upper : Nat} {patch : Patch (BoundedText lower upper)} :
    patch.text = some none ↔ patch = some none := by
  cases patch with
  | none => simp [text]
  | some sent => cases sent <;> simp [text]

/-- A text column fits after a patch when the stored text fits and the sent one does. -/
theorem fits_onto {lower upper limit : Nat} {patch : Patch (BoundedText lower upper)}
    {stored : Option String} (before : fits limit stored) :
    fits limit (patch.text.onto stored) ↔
      ∀ value, patch = some (some value) → value.val.length ≤ limit := by
  cases patch with
  | none => simpa [text, onto] using before
  | some sent => cases sent <;> simp [text, onto, fits]

/-- A text the schema bounds by the length of its column fits. -/
theorem fits_bounded {lower upper : Nat} {patch : Patch (BoundedText lower upper)}
    {stored : Option String} (before : fits upper stored) : fits upper (patch.text.onto stored) :=
  (fits_onto before).mpr fun value _ => value.property.2

end Patch

/-! ## Tasks -/

/-- A stored task is complete. -/
theorem PlanTask.Storable.complete {t : Tables} {task : PlanTask} (storable : task.Storable t) :
    task.Complete :=
  ⟨storable.1, storable.2.1, storable.2.2.1, storable.2.2.2.1, storable.2.2.2.2.1,
    storable.2.2.2.2.2.1⟩

/-- Moving the time of the last change keeps a task complete or incomplete. -/
theorem PlanTask.complete_touch {now : Timestamp} {before after : PlanTask} :
    (PlanTask.touch now before after).Complete ↔ after.Complete := by
  unfold PlanTask.touch
  split
  · next same => rw [same]
  · exact Iff.rfl

/-- A complete task stays so exactly under a patch that sends no null. -/
theorem PlanTaskUpdate.complete_apply (data : PlanTaskUpdate) {task : PlanTask}
    (complete : task.Complete) : (data.apply task).Complete ↔ data.NoNulls := by
  obtain ⟨title, length, category, status, priority, archived⟩ := complete
  unfold PlanTask.Complete PlanTaskUpdate.NoNulls PlanTaskUpdate.apply
  simp only [Patch.isSome_onto title, Patch.isSome_onto category, Patch.isSome_onto status,
    Patch.isSome_onto priority, Patch.isSome_onto archived, ne_eq, Patch.text_eq_null,
    Patch.fits_bounded length, true_and]

/-- A patch of a task is handled exactly when it fits the task. -/
theorem task_handled_iff (tick : Tick) (db : Database) (clientId taskId : Uuid)
    (data : PlanTaskUpdate) :
    Handled (fun applied => ∀ row ∈ applied.tables.planTasks, row.Complete)
        (PlanService.applyUpdateTask tick db.tables clientId taskId data) ↔
      ∀ task, db.tables.getTask clientId taskId = some task → data.FitsTask task := by
  have complete : ∀ row ∈ db.tables.planTasks, row.Complete := fun row inside =>
    (db.consistent.2.2.2.2.1 row inside).complete
  unfold PlanService.applyUpdateTask PlanService.getTask
  cases found : db.tables.getTask clientId taskId with
  | none =>
    constructor
    · intro _ task there
      cases there
    · exact fun _ => trivial
  | some task =>
    have stored : task ∈ db.tables.planTasks := Table.get_mem found
    have named : task.id = taskId := congrArg Prod.fst (Table.get_key found)
    simp only [Option.some.injEq, forall_eq', PlanTaskUpdate.FitsTask, PlanService.checkMerged,
      checkRangesWith, Outcome.ok_bind]
    cases datesInverted (data.startDate.onto task.startDate) (data.dueDate.onto task.dueDate) with
    | true => exact ⟨fun _ => .inl rfl, fun _ => trivial⟩
    | false =>
      cases timesInverted (data.startTime.onto task.startTime)
          (data.endTime.onto task.endTime) with
      | none =>
        constructor
        · exact False.elim
        · rintro (wrong | ⟨_, wrong, _⟩)
          · cases wrong
          · cases wrong
      | some inverted =>
        cases inverted with
        | true => exact ⟨fun _ => .inr ⟨true, rfl, .inl rfl⟩, fun _ => trivial⟩
        | false =>
          constructor
          · intro rows
            have row := rows _ (List.mem_map_of_mem stored)
            rw [if_pos named, PlanTask.complete_touch,
              data.complete_apply (complete task stored)] at row
            exact .inr ⟨false, rfl, .inr row⟩
          · rintro (wrong | ⟨_, ⟨⟩, wrong | clean⟩)
            · cases wrong
            · cases wrong
            · intro row inside
              obtain ⟨old, -⟩ | ⟨old, member, -, rfl⟩ := Table.mem_modify.mp inside
              · exact complete row old
              · rw [PlanTask.complete_touch, data.complete_apply (complete old member)]
                exact clean

/-! ## Clients -/

/-- A stored client is complete. -/
theorem Client.Storable.complete {client : Client} (storable : client.Storable) :
    client.Complete := by
  obtain ⟨name, length, status, business, industry, website, location, timezone, language, -⟩ :=
    storable
  exact ⟨name, length, status, business, industry, website, location, timezone, language⟩

/-- Moving the time of the last change keeps a client complete or incomplete. -/
theorem Client.complete_touch {now : Timestamp} {before after : Client} :
    (Client.touch now before after).Complete ↔ after.Complete := by
  unfold Client.touch
  split <;> exact Iff.rfl

/-- A complete client stays so exactly under a patch that fits. -/
theorem ClientUpdate.complete_apply {env : Environment} (data : ClientUpdate env) {client : Client}
    (complete : client.Complete) : (data.apply client).Complete ↔ data.FitsClient := by
  obtain ⟨name, length, status, business, industry, website, location, timezone, language⟩ :=
    complete
  have zone : fits 60 (Patch.onto (data.timezone.map fun value => value.map Subtype.val)
      client.timezone) := by
    cases data.timezone with
    | none => exact timezone
    | some sent =>
      cases sent with
      | none => rfl
      | some tz => simpa [Patch.onto, fits] using tz.property.1
  unfold Client.Complete ClientUpdate.FitsClient ClientUpdate.apply
  simp only [Patch.isSome_onto name, Patch.isSome_onto status, ne_eq, Patch.text_eq_null,
    Patch.fits_onto length, Patch.fits_bounded business, Patch.fits_bounded industry,
    Patch.fits_bounded website, Patch.fits_bounded location, Patch.fits_bounded language, zone,
    and_true]
  exact ⟨fun fit => ⟨fit.1, fit.2.2, fit.2.1⟩, fun fit => ⟨fit.1, fit.2.2, fit.2.1⟩⟩

/-- What an edit leaves in the table of clients; the build it enqueues is a row of another. -/
theorem clients_applyUpdateClient (env : Environment) (tick : Tick) {t : Tables} {clientId : Uuid}
    (data : ClientUpdate env) {client : Client} (found : t.getClient clientId = some client) :
    ∃ applied, ClientService.applyUpdateClient env tick t clientId data = .ok applied ∧
      applied.tables.clients = Table.modify Client.id clientId
        (fun row => Client.touch tick.now row (data.apply row)) t.clients := by
  unfold ClientService.applyUpdateClient
  rw [found]
  refine ⟨_, rfl, ?_⟩
  cases fieldChanges client.auditValues (data.apply client).auditValues <;> rfl

/-- A patch of a client is handled exactly when it fits. -/
theorem client_handled_iff (env : Environment) (tick : Tick) (db : Database) (clientId : Uuid)
    (data : ClientUpdate env) :
    Handled (fun applied => ∀ row ∈ applied.tables.clients, row.Complete)
        (ClientService.applyUpdateClient env tick db.tables clientId data) ↔
      ((db.tables.getClient clientId).isSome → data.FitsClient) := by
  have complete : ∀ row ∈ db.tables.clients, row.Complete := fun row inside =>
    (db.consistent.1 row inside).complete
  cases found : db.tables.getClient clientId with
  | none =>
    unfold ClientService.applyUpdateClient
    rw [found]
    constructor
    · intro _ absent
      cases absent
    · exact fun _ => trivial
  | some client =>
    have stored : client ∈ db.tables.clients := Table.get_mem found
    have named : client.id = clientId := Table.get_key found
    obtain ⟨applied, done, rows⟩ := clients_applyUpdateClient env tick data found
    simp only [done, Handled, rows, Option.isSome_some, forall_const]
    constructor
    · intro fit
      have row := fit _ (List.mem_map_of_mem stored)
      rwa [if_pos named, Client.complete_touch, data.complete_apply (complete client stored)] at row
    · intro fit row inside
      obtain ⟨old, -⟩ | ⟨old, member, -, rfl⟩ := Table.mem_modify.mp inside
      · exact complete row old
      · rw [Client.complete_touch, data.complete_apply (complete old member)]
        exact fit

/-- **Accepted patches.** A patch of a task either raises an `AppError` or leaves complete rows
exactly when it fits the task, and so does a patch of a client. -/
theorem patch_storable_iff (env : Environment) (tick : Tick) (db : Database)
    (clientId taskId : Uuid) (taskData : PlanTaskUpdate) (clientData : ClientUpdate env) :
    (Handled (fun applied => ∀ row ∈ applied.tables.planTasks, row.Complete)
        (PlanService.applyUpdateTask tick db.tables clientId taskId taskData) ↔
      ∀ task, db.tables.getTask clientId taskId = some task → taskData.FitsTask task) ∧
    (Handled (fun applied => ∀ row ∈ applied.tables.clients, row.Complete)
        (ClientService.applyUpdateClient env tick db.tables clientId clientData) ↔
      ((db.tables.getClient clientId).isSome → clientData.FitsClient)) :=
  ⟨task_handled_iff tick db clientId taskId taskData,
    client_handled_iff env tick db clientId clientData⟩

/-- The schema accepts a null title, and the patch then leaves a task without a title. -/
theorem null_title_stored :
    PlanTaskUpdate.decode (.obj [("title", .null)]) =
        .ok { emptyTaskUpdate with title := some none } ∧
      ¬Handled (fun applied => ∀ row ∈ applied.tables.planTasks, row.Complete)
        (PlanService.applyUpdateTask ⟨0, 10, 11, 12⟩ (sampleDatabase []).tables 2 3
          { emptyTaskUpdate with title := some none }) := by
  refine ⟨rfl, fun handled => ?_⟩
  have fits := (task_handled_iff _ (sampleDatabase []) 2 3 _).mp handled sampleTask rfl
  obtain wrong | ⟨_, ⟨⟩, wrong | clean⟩ := fits
  · cases wrong
  · cases wrong
  · exact clean.1 rfl

end MarketingOS
