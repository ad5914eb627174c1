import MarketingOS.Models.RowConstraints
import MarketingOS.Verif.DryRun
import MarketingOS.Verif.PlanRanges

/-!
# Writes staged on the same tables

Every operation of a proposal is dry-run on the tables of its staging and executed after the earlier
ones of the list. What the earlier calls leave of these tables is described from the calls alone, and
a call can be executed after them exactly when it fits them.
-/
namespace MarketingOS

/-! ## What a body writes -/

/-- A task update writes no null where a column has none, and an assignee who is there. -/
def PlanTaskUpdate.Storable (t : Tables) (data : PlanTaskUpdate) : Prop :=
  data.title ≠ some none ∧ data.category ≠ some none ∧ data.status ≠ some none ∧
    data.priority ≠ some none ∧ data.archived ≠ some none ∧
    ∀ assignee, data.assigneeId = some (some assignee) → (t.getUser assignee).isSome

/-- A client edit writes a name that fits its column and a status, if any. -/
def ClientUpdate.Storable {env : Environment} (data : ClientUpdate env) : Prop :=
  data.name ≠ some none ∧ (∀ name, data.name = some (some name) → name.val.length ≤ 160) ∧
    data.status ≠ some none

/-- A brand edit writes font names that fit their column. -/
def BrandUpdate.Storable (data : BrandUpdate) : Prop :=
  ∀ fonts, data.fonts = some (some fonts) →
    ∀ font ∈ BrandUpdate.fontRows fonts.val, font.family.length ≤ 120

namespace Patch

variable {α : Type} {patch : Patch α} {stored : Option α}

/-- A column that holds a value holds one after a partial update that sends no null. -/
theorem onto_isSome_iff (there : stored.isSome) :
    (patch.onto stored).isSome ↔ patch ≠ some none := by
  match patch with
  | none => simpa [onto] using there
  | some none => simp [onto]
  | some (some value) => simp [onto]

/-- A text column that holds a value holds one after a partial update that sends no null. -/
theorem text_onto_isSome_iff {lower upper : Nat} {patch : Patch (BoundedText lower upper)}
    {stored : Option String} (there : stored.isSome) :
    (patch.text.onto stored).isSome ↔ patch ≠ some none := by
  match patch with
  | none => simpa [onto, text] using there
  | some none => simp [onto, text]
  | some (some value) => simp [onto, text]

/-- A text column keeps to a length its patch is bounded by. -/
theorem fits_text_onto {lower upper limit : Nat} {patch : Patch (BoundedText lower upper)}
    {stored : Option String} (bound : upper ≤ limit) (short : fits limit stored) :
    fits limit (patch.text.onto stored) := by
  match patch with
  | none => exact short
  | some none => rfl
  | some (some value) => exact decide_eq_true (Nat.le_trans value.property.2 bound)

end Patch

/-- A user is there when a lookup finds the row. -/
theorem Tables.userExists_iff {t : Tables} {userId : Uuid} :
    t.userExists (some userId) = true ↔ (t.getUser userId).isSome := by
  simp only [Tables.userExists, Option.all_some, Tables.getUser]
  rw [Table.has_iff_get, Option.isSome_iff_exists]

/-- A text cut to a length fits it. -/
theorem fits_clip (limit : Nat) (text : String) : fits limit (some (clip limit text)) = true := by
  refine decide_eq_true ?_
  show (clip limit text).length ≤ limit
  rw [length_clip]
  exact Nat.min_le_left _ _

/-- A new task meets its constraints when its client, its assignee and its author are there. -/
theorem PlanService.storable_newTask {t : Tables} {clientId createdBy : Uuid}
    {data : PlanTaskCreate} (tick : Tick) (client : Table.has Client.id t.clients clientId = true)
    (assignee : t.userExists data.assigneeId = true)
    (author : t.userExists (some createdBy) = true) :
    (newTask tick clientId data createdBy).Storable t := by
  have titled : fits 200 (some data.title.val) = true := decide_eq_true data.title.property.2
  exact ⟨rfl, titled, rfl, rfl, rfl, rfl, client, assignee, author, rfl⟩

/-- A copy meets its constraints when its source does and its client and its author are there. -/
theorem PlanService.storable_copyOf {t : Tables} {clientId createdBy : Uuid} {source : PlanTask}
    (tick : Tick) (storable : source.Storable t)
    (client : Table.has Client.id t.clients clientId = true)
    (author : t.userExists (some createdBy) = true) :
    (copyOf tick clientId source createdBy).Storable t := by
  obtain ⟨-, -, category, -, priority, -⟩ := storable
  exact ⟨rfl, fits_clip 200 _, category, rfl, priority, rfl, client, rfl, author, rfl⟩

/-- Moving `updated_at` changes nothing its constraints speak of. -/
theorem PlanTask.storable_touch {t : Tables} {now : Timestamp} {before after : PlanTask} :
    (PlanTask.touch now before after).Storable t ↔ after.Storable t := by
  unfold PlanTask.touch
  split
  · next same => rw [same]
  · exact Iff.rfl

/-- A storable task stays storable under an update whose writes are. -/
theorem PlanTaskUpdate.storable_apply_iff {t : Tables} {data : PlanTaskUpdate} {task : PlanTask}
    (before : task.Storable t) : (data.apply task).Storable t ↔ data.Storable t := by
  obtain ⟨title, length, category, status, priority, archived, client, assignee, creator, event⟩ :=
    before
  have assigned : t.userExists (data.assigneeId.onto task.assigneeId) = true ↔
      ∀ user, data.assigneeId = some (some user) → (t.getUser user).isSome := by
    match sent : data.assigneeId with
    | none => simpa [Patch.onto] using assignee
    | some none => simp [Patch.onto, Tables.userExists]
    | some (some user) => simp [Patch.onto, Tables.userExists_iff]
  simp only [PlanTask.Storable, PlanTaskUpdate.apply, PlanTaskUpdate.Storable,
    Patch.text_onto_isSome_iff title, Patch.onto_isSome_iff category, Patch.onto_isSome_iff status,
    Patch.onto_isSome_iff priority, Patch.onto_isSome_iff archived, assigned, client, creator, event,
    Patch.fits_text_onto (Nat.le_refl 200) length, true_and, and_true]

/-- Moving `updated_at` changes nothing its constraints speak of. -/
theorem Client.storable_touch {now : Timestamp} {before after : Client} :
    (Client.touch now before after).Storable ↔ after.Storable := by
  unfold Client.touch
  split <;> exact Iff.rfl

/-- A storable client stays storable under an edit whose writes are. -/
theorem ClientUpdate.storable_apply_iff {env : Environment} {data : ClientUpdate env}
    {client : Client} (before : client.Storable) :
    (data.apply client).Storable ↔ data.Storable := by
  obtain ⟨name, short, status, business, industry, website, location, timezone, language, brand⟩ :=
    before
  have named : fits 160 (data.name.text.onto client.name) = true ↔
      ∀ name, data.name = some (some name) → name.val.length ≤ 160 := by
    match data.name with
    | none => simpa [Patch.onto, Patch.text] using short
    | some none => simp [Patch.onto, Patch.text, fits]
    | some (some name) => simp [Patch.onto, Patch.text, fits]
  have zone : fits 60 (Patch.onto (data.timezone.map fun value => value.map Subtype.val)
      client.timezone) = true := by
    match data.timezone with
    | none => exact timezone
    | some none => rfl
    | some (some zone) => exact decide_eq_true zone.property.1
  simp only [Client.Storable, ClientUpdate.apply, ClientUpdate.Storable,
    Patch.text_onto_isSome_iff name, Patch.onto_isSome_iff status, named, zone,
    Patch.fits_text_onto (Nat.le_refl 120) business, Patch.fits_text_onto (Nat.le_refl 120) industry,
    Patch.fits_text_onto (Nat.le_refl 255) website, Patch.fits_text_onto (Nat.le_refl 160) location,
    Patch.fits_text_onto (Nat.le_refl 60) language, true_and]
  constructor
  · rintro ⟨present, length, known, -⟩
    exact ⟨present, length, known⟩
  · rintro ⟨present, length, known⟩
    exact ⟨present, length, known, brand⟩

/-- A hexadecimal colour fits its column. -/
theorem length_of_isHexColor {text : String} (valid : isHexColor text = true) : text.length ≤ 9 := by
  unfold isHexColor at valid
  split at valid
  · next digits shape =>
    rw [← String.length_toList, shape, List.length_cons]
    simp only [Bool.and_eq_true, List.contains_eq_mem, List.mem_cons, List.not_mem_nil, or_false,
      decide_eq_true_eq] at valid
    omega
  · cases valid

/-- The colours of a brand edit fit their columns. -/
theorem BrandUpdate.storable_colorRows (colors : List BrandColorIn) :
    ∀ color ∈ BrandUpdate.colorRows colors, color.hex.length ≤ 9 ∧ fits 60 color.label := by
  intro color inside
  obtain ⟨position, bound, rfl⟩ := List.mem_mapIdx.mp inside
  refine ⟨length_of_isHexColor colors[position].hex.property, ?_⟩
  have short : fits 60 (colors[position].label.text.onto none) :=
    Patch.fits_text_onto (Nat.le_refl 60) rfl
  match sent : colors[position].label with
  | none => simp [Patch.text, Patch.read, fits]
  | some none => simp [Patch.text, Patch.read, fits]
  | some (some value) =>
    rw [sent] at short
    simpa [Patch.text, Patch.read, Patch.onto, sent] using short

/-- A storable client stays storable under a brand edit whose writes are. -/
theorem BrandUpdate.storable_apply_iff {data : BrandUpdate} {client : Client}
    (before : client.Storable) : (data.apply client).Storable ↔ data.Storable := by
  obtain ⟨name, short, status, business, industry, website, location, timezone, language, colors,
    fonts⟩ := before
  have painted : ∀ color ∈ (data.apply client).brandColors,
      color.hex.length ≤ 9 ∧ fits 60 color.label := by
    simp only [BrandUpdate.apply]
    split
    · exact colors
    · next sent _ => exact BrandUpdate.storable_colorRows sent.val
  have lettered : (∀ font ∈ (data.apply client).brandFonts,
      font.family.length ≤ 120 ∧ fits 60 font.usage) ↔ data.Storable := by
    simp only [BrandUpdate.apply, BrandUpdate.Storable]
    match data.fonts with
    | none => simpa [Patch.read] using fonts
    | some none => simpa [Patch.read] using fonts
    | some (some sent) =>
      constructor
      · intro written fonts same font inside
        cases same
        exact (written font inside).1
      · intro storable font inside
        refine ⟨storable sent rfl font inside, ?_⟩
        obtain ⟨family, -, rfl⟩ := List.mem_map.mp inside
        rfl
  constructor
  · rintro ⟨-, -, -, -, -, -, -, -, -, -, written⟩
    exact lettered.mp written
  · intro storable
    exact ⟨name, short, status, business, industry, website, location, timezone, language, painted,
      lettered.mpr storable⟩

/-- A storable user stays storable under every edit. -/
theorem UserUpdate.storable_apply {data : UserUpdate} {user : User} (before : user.Storable)
    (now : Timestamp) : (User.touch now user (data.apply user)).Storable := by
  have written : (data.apply user).Storable := by
    refine ⟨before.1, ?_⟩
    simp only [UserUpdate.apply]
    match data.name with
    | none => exact before.2
    | some none => exact before.2
    | some (some name) => exact name.property.2
  unfold User.touch
  split
  · exact before
  · exact written

namespace ProposalService

variable {env : Environment}

/-! ## Calls that fit the earlier ones -/

/-- The update a call makes of a task. -/
def editOf (taskId : Uuid) : StageCall env → Option PlanTaskUpdate
  | .planTaskUpdate other data => if other = taskId then some data else none
  | _ => none

/-- A task with the updates of earlier calls. -/
def edited (before : List (StageCall env)) (taskId : Uuid) (task : PlanTask) : PlanTask :=
  (before.filterMap (editOf taskId)).foldl (fun row data => data.apply row) task

/-- A call fits earlier ones that were staged on the same tables. A task is not touched after its
deletion, its ranges stay in order under all its updates, and an update writes what can be stored. A
user is assigned once, and an assignment that was removed is not touched again. -/
def Fits (t : Tables) (clientId : Uuid) (before : List (StageCall env)) : StageCall env → Prop
  | .planTaskCreate _ | .updateUser _ _ => True
  | .planTaskUpdate taskId data =>
    .planTaskDelete taskId ∉ before ∧
      (∀ task, t.getTask clientId taskId = some task →
        PlanService.checkMerged data (edited before taskId task) = .ok ()) ∧
      data.Storable t
  | .planTaskDelete taskId | .planTaskDuplicate taskId | .planTaskAddNote taskId _ =>
    .planTaskDelete taskId ∉ before
  | .assignmentAssign target _ => ∀ caps, .assignmentAssign target caps ∉ before
  | .assignmentSetCapabilities target _ | .assignmentUnassign target =>
    .assignmentUnassign target ∉ before
  | .updateClient data => data.Storable
  | .updateBrand data => data.Storable

/-- Every call of a list fits those before it. -/
def Compatible (t : Tables) (clientId : Uuid) :
    List (StageCall env) → List (StageCall env) → Prop
  | _, [] => True
  | before, call :: rest =>
    Fits t clientId before call ∧ Compatible t clientId (before ++ [call]) rest

/-- What a dry run has seen of the tables. -/
def Ready (t : Tables) (clientId : Uuid) (user : User) : StageCall env → Prop
  | .planTaskCreate data => t.userExists data.assigneeId ∧ t.userExists (some user.id)
  | .planTaskUpdate taskId _ | .planTaskDelete taskId => (t.getTask clientId taskId).isSome
  | .planTaskDuplicate taskId | .planTaskAddNote taskId _ =>
    (t.getTask clientId taskId).isSome ∧ t.userExists (some user.id)
  | .assignmentAssign target _ =>
    (t.getUser target).isSome ∧ t.getAssignment clientId target = none ∧
      t.userExists (some user.id)
  | .assignmentSetCapabilities target _ | .assignmentUnassign target =>
    (t.getAssignment clientId target).isSome
  | .updateClient _ | .updateBrand _ => True
  | .updateUser target _ => (t.getUser target).isSome

/-- A call is staged for a client that is there. -/
theorem client_of_stage {tick : Tick} {t : Tables} {clientId : Uuid} {user : User}
    {call : StageCall env} {staged : Staged}
    (made : stage env tick t clientId user call = .ok staged) :
    (t.getClient clientId).isSome := by
  have found : ∃ client, ClientService.getClient t user clientId = .ok client := by
    cases call <;> simp only [stage, stagePlanTaskCreate, stagePlanTaskUpdate, stagePlanTaskDelete,
      stagePlanTaskDuplicate, stagePlanTaskAddNote, stageAssignmentAssign,
      stageAssignmentSetCapabilities, stageAssignmentUnassign, stageUpdateClient, stageUpdateBrand,
      stageUpdateUser, Outcome.bind_ok] at made <;>
      exact made.imp fun _ done => done.1
  obtain ⟨client, found⟩ := found
  exact Option.isSome_of_eq_some (getClient_ok found)

/-- The calls that an administrator must approve. -/
def adminOnly : StageCall env → Bool
  | .planTaskCreate _ | .planTaskUpdate _ _ | .planTaskDelete _ | .planTaskDuplicate _
  | .planTaskAddNote _ _ => false
  | .assignmentAssign _ _ | .assignmentSetCapabilities _ _ | .assignmentUnassign _
  | .updateClient _ | .updateBrand _ | .updateUser _ _ => true

/-- What a staged operation asks of its approver. -/
theorem standing_of_stage {tick : Tick} {t : Tables} {clientId : Uuid} {user : User}
    {call : StageCall env} {staged : Staged}
    (made : stage env tick t clientId user call = .ok staged) :
    staged.operation.requiredCapability = none ∧
      staged.operation.requiresAdmin = adminOnly call := by
  cases call with
  | planTaskCreate data =>
    simp only [stage, stagePlanTaskCreate, Outcome.bind_ok] at made
    obtain ⟨_, _, _, _, made⟩ := made
    obtain rfl := Except.ok.inj made
    exact ⟨rfl, rfl⟩
  | planTaskUpdate taskId data =>
    simp only [stage, stagePlanTaskUpdate, Outcome.bind_ok] at made
    obtain ⟨_, _, _, _, _, _, made⟩ := made
    obtain rfl := Except.ok.inj made
    exact ⟨rfl, rfl⟩
  | planTaskDelete taskId =>
    simp only [stage, stagePlanTaskDelete, Outcome.bind_ok] at made
    obtain ⟨_, _, _, _, _, _, made⟩ := made
    obtain rfl := Except.ok.inj made
    exact ⟨rfl, rfl⟩
  | planTaskDuplicate taskId =>
    simp only [stage, stagePlanTaskDuplicate, Outcome.bind_ok] at made
    obtain ⟨_, _, _, _, made⟩ := made
    obtain rfl := Except.ok.inj made
    exact ⟨rfl, rfl⟩
  | planTaskAddNote taskId data =>
    simp only [stage, stagePlanTaskAddNote, Outcome.bind_ok] at made
    obtain ⟨_, _, ⟨_, _, _⟩, _, made⟩ := made
    obtain rfl := Except.ok.inj made
    exact ⟨rfl, rfl⟩
  | assignmentAssign target caps =>
    simp only [stage, stageAssignmentAssign, Outcome.bind_ok] at made
    obtain ⟨_, _, _, _, _, _, ⟨_, _⟩, _, made⟩ := made
    obtain rfl := Except.ok.inj made
    exact ⟨rfl, rfl⟩
  | assignmentSetCapabilities target caps =>
    simp only [stage, stageAssignmentSetCapabilities, Outcome.bind_ok] at made
    obtain ⟨_, _, _, _, _, _, ⟨_, _⟩, _, made⟩ := made
    obtain rfl := Except.ok.inj made
    exact ⟨rfl, rfl⟩
  | assignmentUnassign target =>
    simp only [stage, stageAssignmentUnassign, Outcome.bind_ok] at made
    obtain ⟨_, _, _, _, _, _, _, _, made⟩ := made
    obtain rfl := Except.ok.inj made
    exact ⟨rfl, rfl⟩
  | updateClient data =>
    simp only [stage, stageUpdateClient, Outcome.bind_ok] at made
    obtain ⟨_, _, _, _, _, _, made⟩ := made
    obtain rfl := Except.ok.inj made
    exact ⟨rfl, rfl⟩
  | updateBrand data =>
    simp only [stage, stageUpdateBrand, Outcome.bind_ok] at made
    obtain ⟨_, _, _, _, made⟩ := made
    obtain rfl := Except.ok.inj made
    exact ⟨rfl, rfl⟩
  | updateUser target data =>
    simp only [stage, stageUpdateUser, Outcome.bind_ok] at made
    obtain ⟨_, _, _, _, _, _, _, _, made⟩ := made
    obtain rfl := Except.ok.inj made
    exact ⟨rfl, rfl⟩

/-- The dry run of a call that was staged has seen what it needs. -/
theorem ready_of_stage {tick : Tick} {t : Tables} {clientId : Uuid} {user : User}
    {call : StageCall env} {staged : Staged}
    (made : stage env tick t clientId user call = .ok staged) : Ready t clientId user call := by
  cases call with
  | planTaskCreate data =>
    simp only [stage, stagePlanTaskCreate, PlanService.applyCreateTask, Outcome.bind_ok] at made
    obtain ⟨client, -, applied, ⟨flushed, sent, -⟩, -⟩ := made
    obtain ⟨-, valid⟩ := flush_ok sent
    obtain ⟨-, -, -, -, -, -, -, assignee, creator, -⟩ := valid.2.2.2.2.1
      (PlanService.newTask tick clientId data user.id) (List.mem_append_right _ List.mem_cons_self)
    exact ⟨assignee, creator⟩
  | planTaskUpdate taskId data =>
    simp only [stage, stagePlanTaskUpdate, Outcome.bind_ok] at made
    obtain ⟨client, -, existing, found, -⟩ := made
    exact Option.isSome_of_eq_some (PlanService.getTask_ok.mp found)
  | planTaskDelete taskId =>
    simp only [stage, stagePlanTaskDelete, Outcome.bind_ok] at made
    obtain ⟨client, -, existing, found, -⟩ := made
    exact Option.isSome_of_eq_some (PlanService.getTask_ok.mp found)
  | planTaskDuplicate taskId =>
    simp only [stage, stagePlanTaskDuplicate, PlanService.applyDuplicateTask,
      Outcome.bind_ok] at made
    obtain ⟨client, -, applied, ⟨source, found, flushed, sent, -⟩, -⟩ := made
    obtain ⟨-, valid⟩ := flush_ok sent
    obtain ⟨-, -, -, -, -, -, -, -, creator, -⟩ := valid.2.2.2.2.1
      (PlanService.copyOf tick clientId source user.id)
      (List.mem_append_right _ List.mem_cons_self)
    exact ⟨Option.isSome_of_eq_some (PlanService.getTask_ok.mp found), creator⟩
  | planTaskAddNote taskId data =>
    simp only [stage, stagePlanTaskAddNote, PlanService.applyAddNote, Outcome.bind_ok] at made
    obtain ⟨client, -, result, ⟨task, found, flushed, sent, -⟩, -⟩ := made
    obtain ⟨-, valid⟩ := flush_ok sent
    obtain ⟨-, author⟩ := valid.2.2.2.2.2.2.1 _ (List.mem_append_right _ List.mem_cons_self)
    exact ⟨Option.isSome_of_eq_some (PlanService.getTask_ok.mp found), author⟩
  | assignmentAssign target caps =>
    simp only [stage, stageAssignmentAssign, Outcome.bind_ok] at made
    obtain ⟨client, -, -, -, found, -, ⟨row, dryRun⟩, done, -⟩ := made
    unfold AssignmentService.applyAssign at done
    split at done
    · cases done
    split at done
    · cases done
    split at done
    · cases done
    next known free =>
      simp only [Outcome.bind_ok] at done
      obtain ⟨flushed, sent, -⟩ := done
      obtain ⟨-, valid⟩ := flush_ok sent
      obtain ⟨-, -, assigner⟩ := valid.2.2.1 _ (List.mem_append_right _ List.mem_cons_self)
      refine ⟨?_, ?_, assigner⟩
      · simpa [Option.isSome_iff_ne_none] using known
      · simpa using free
  | assignmentSetCapabilities target caps =>
    simp only [stage, stageAssignmentSetCapabilities, Outcome.bind_ok] at made
    obtain ⟨client, -, -, -, existing, found, -⟩ := made
    exact Option.isSome_of_eq_some (AssignmentService.getAssignment_ok.mp found)
  | assignmentUnassign target =>
    simp only [stage, stageAssignmentUnassign, Outcome.bind_ok] at made
    obtain ⟨client, -, -, -, existing, found, -⟩ := made
    exact Option.isSome_of_eq_some (AssignmentService.getAssignment_ok.mp found)
  | updateClient data => trivial
  | updateBrand data => trivial
  | updateUser target data =>
    simp only [stage, stageUpdateUser, requireUser, Outcome.bind_ok] at made
    obtain ⟨client, -, -, -, row, found, -⟩ := made
    cases known : t.getUser target with
    | none =>
      rw [known] at found
      cases found
    | some row => exact Option.isSome_of_eq_some known

end ProposalService

end MarketingOS
