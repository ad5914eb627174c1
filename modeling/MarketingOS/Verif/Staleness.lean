import MarketingOS.Verif.ProposalLifecycle

/-! # Staleness and lost updates

An operation staged on a row carries the row's `updated_at`, and approval compares the two
before it executes anything. The comparison takes no lock, so it only protects an edit that
commits before it. What is protected, and what is not, is said here over whole runs. -/
namespace MarketingOS

/-! ## Versions -/

/-- Committing rows keeps the version of every entity. -/
@[simp] theorem Entity.version_stored (t : Tables) (entity : Entity) :
    entity.version t.stored = entity.version t := by
  cases entity with
  | planTask clientId taskId =>
    simp only [Entity.version, Tables.getTask, Tables.stored, Table.get, List.find?_map,
      Option.map_map]
    rfl
  | client | user => rfl

namespace RowWrite

/-- The version a write leaves on its own entity. -/
theorem version_target {t : Tables} {write : RowWrite} {entity : Entity} {new : Option Timestamp}
    (own : write.keyed = true) (goes : write.target = some (entity, new)) :
    entity.version (apply t write) = new := by
  cases write with
  | client id row =>
    simp only [target, Option.some.injEq, Prod.mk.injEq] at goes
    obtain ⟨rfl, rfl⟩ := goes
    simp only [keyed, Option.all_eq_true, decide_eq_true_eq] at own
    simp only [Entity.version, Tables.getClient, apply, Table.get_put_same own]
  | user id row =>
    simp only [target, Option.some.injEq, Prod.mk.injEq] at goes
    obtain ⟨rfl, rfl⟩ := goes
    simp only [keyed, Option.all_eq_true, decide_eq_true_eq] at own
    simp only [Entity.version, Tables.getUser, apply, Table.get_put_same own]
  | planTask clientId id row =>
    simp only [target, Option.some.injEq, Prod.mk.injEq] at goes
    obtain ⟨rfl, rfl⟩ := goes
    simp only [keyed, Option.all_eq_true, decide_eq_true_eq] at own
    simp only [Entity.version, Tables.getTask, apply, Table.get_put_same own]
  | assignment | note | asset | event | job | audit => simp [target] at goes

/-- A write leaves every other entity alone. -/
theorem version_other {t : Tables} {write : RowWrite} {entity : Entity}
    (own : write.keyed = true) (elsewhere : write.target.map Prod.fst ≠ some entity) :
    entity.version (apply t write) = entity.version t := by
  cases write with
  | client id row =>
    simp only [keyed, Option.all_eq_true, decide_eq_true_eq] at own
    cases entity with
    | client clientId =>
      have apart : clientId ≠ id := fun same => elsewhere (by simp [target, same])
      simp only [Entity.version, Tables.getClient, apply, Table.get_put_other own apart]
    | planTask | user => rfl
  | user id row =>
    simp only [keyed, Option.all_eq_true, decide_eq_true_eq] at own
    cases entity with
    | user userId =>
      have apart : userId ≠ id := fun same => elsewhere (by simp [target, same])
      simp only [Entity.version, Tables.getUser, apply, Table.get_put_other own apart]
    | planTask | client => rfl
  | planTask clientId id row =>
    simp only [keyed, Option.all_eq_true, decide_eq_true_eq] at own
    cases entity with
    | planTask ownerId taskId =>
      have apart : (taskId, ownerId) ≠ (id, clientId) := by
        intro same
        obtain ⟨rfl, rfl⟩ := Prod.mk.inj same
        exact elsewhere rfl
      simp only [Entity.version, Tables.getTask, apply, Table.get_put_other own apart]
    | client | user => rfl
  | assignment | note | asset | event | job | audit => cases entity <;> rfl

/-- After a transaction an entity has the version its last write left, or is as it was. -/
theorem version_applyAll {t : Tables} {writes : List RowWrite}
    (own : ∀ write ∈ writes, write.keyed = true) (entity : Entity) :
    (∃ write ∈ writes, write.target = some (entity, entity.version (applyAll t writes))) ∨
      (entity ∉ entities writes ∧ entity.version (applyAll t writes) = entity.version t) := by
  induction writes generalizing t with
  | nil => exact .inr ⟨by simp [entities], rfl⟩
  | cons write writes ih =>
    simp only [List.mem_cons, forall_eq_or_imp] at own
    have later : applyAll t (write :: writes) = applyAll (apply t write) writes := rfl
    rw [later]
    obtain ⟨last, inside, goes⟩ | ⟨untouched, kept⟩ := ih (t := apply t write) own.2
    · exact .inl ⟨last, List.mem_cons_of_mem _ inside, goes⟩
    · by_cases here : write.target.map Prod.fst = some entity
      · obtain ⟨⟨found, new⟩, goes, rfl⟩ := Option.map_eq_some_iff.mp here
        refine .inl ⟨write, List.mem_cons_self, ?_⟩
        rw [kept, version_target own.1 goes]
        exact goes
      · refine .inr ⟨?_, kept.trans (version_other own.1 here)⟩
        simp only [entities, List.mem_filterMap, List.mem_cons, exists_eq_or_imp] at untouched ⊢
        rintro (goes | goes)
        · exact here goes
        · exact untouched goes

end RowWrite

namespace ProposalRace

open ProposalService

variable {env : Environment} {proposal : ChangeProposal}

/-- The snapshot comparison compares the version of the entity an operation was staged on. -/
theorem matchesLiveSnapshot_iff {t : Tables} {clientId : Uuid} {op : ProposedOperation} :
    matchesLiveSnapshot t clientId op = true ↔ ∀ entity snapshot,
      target clientId op = some (entity, snapshot) → entity.version t = some snapshot := by
  unfold matchesLiveSnapshot target
  cases op.baseSnapshot with
  | none => simp
  | some snapshot =>
    cases op.entityId with
    | none => simp
    | some entityId =>
      dsimp only
      split <;> simp [Entity.version, Option.any_eq_true, *]

/-- The entity a stage call writes to, where it has an `updated_at` to compare. -/
def stagedOn (clientId : Uuid) : StageCall env → Option Entity
  | .planTaskUpdate taskId _ | .planTaskDelete taskId => some (.planTask clientId taskId)
  | .updateClient _ | .updateBrand _ => some (.client clientId)
  | .updateUser userId _ => some (.user userId)
  | _ => none

/-- A client the user can reach is looked up by its identifier. -/
theorem version_getClient {t : Tables} {user : User} {clientId : Uuid} {client : Client}
    (found : ClientService.getClient t user clientId = .ok client) :
    (Entity.client clientId).version t = some client.updatedAt := by
  unfold ClientService.getClient at found
  split at found
  · cases found
  · next row lookup =>
    split at found
    · obtain rfl := Except.ok.inj found
      simp only [Entity.version, lookup, Option.map_some]
    · cases found

/-- Every staged task update or deletion, and every staged client, brand or user update, carries
the version of the row it was staged on; no other operation carries one. -/
theorem stage_target {tick : Tick} {t : Tables} {clientId : Uuid} {user : User}
    {call : StageCall env} {staged : Staged}
    (done : stage env tick t clientId user call = .ok staged) (seq : Nat) :
    target clientId (staged.operation.persist seq) =
      (stagedOn clientId call).bind fun entity =>
        (entity.version t).map fun version => (entity, version) := by
  cases call with
  | planTaskUpdate taskId data =>
    simp only [stage, stagePlanTaskUpdate, Outcome.bind_ok] at done
    obtain ⟨client, -, task, found, applied, -, done⟩ := done
    obtain rfl := Except.ok.inj done
    simp [stagedOn, Entity.version, PlanService.getTask_ok.mp found, target,
      StagedOperation.persist]
  | planTaskDelete taskId =>
    simp only [stage, stagePlanTaskDelete, Outcome.bind_ok] at done
    obtain ⟨client, -, task, found, applied, -, done⟩ := done
    obtain rfl := Except.ok.inj done
    simp [stagedOn, Entity.version, PlanService.getTask_ok.mp found, target,
      StagedOperation.persist]
  | updateClient data =>
    simp only [stage, stageUpdateClient, Outcome.bind_ok] at done
    obtain ⟨client, found, -, -, applied, -, done⟩ := done
    obtain rfl := Except.ok.inj done
    simp [stagedOn, version_getClient found, target, StagedOperation.persist]
  | updateBrand data =>
    simp only [stage, stageUpdateBrand, Outcome.bind_ok] at done
    obtain ⟨client, found, -, -, done⟩ := done
    obtain rfl := Except.ok.inj done
    simp [stagedOn, version_getClient found, target, StagedOperation.persist]
  | updateUser userId data =>
    simp only [stage, stageUpdateUser, Outcome.bind_ok] at done
    obtain ⟨client, -, -, -, row, found, applied, -, done⟩ := done
    obtain rfl := Except.ok.inj done
    unfold requireUser at found
    split at found
    · cases found
    · next target lookup =>
      obtain rfl := Except.ok.inj found
      simp [stagedOn, Entity.version, lookup, ProposalRace.target, StagedOperation.persist]
  | planTaskCreate data =>
    simp only [stage, stagePlanTaskCreate, Outcome.bind_ok] at done
    obtain ⟨client, -, applied, -, done⟩ := done
    obtain rfl := Except.ok.inj done
    rfl
  | planTaskDuplicate taskId =>
    simp only [stage, stagePlanTaskDuplicate, Outcome.bind_ok] at done
    obtain ⟨client, -, applied, -, done⟩ := done
    obtain rfl := Except.ok.inj done
    rfl
  | planTaskAddNote taskId data =>
    simp only [stage, stagePlanTaskAddNote, Outcome.bind_ok] at done
    obtain ⟨client, -, ⟨note, task, dryRun⟩, -, done⟩ := done
    obtain rfl := Except.ok.inj done
    rfl
  | assignmentAssign userId caps =>
    simp only [stage, stageAssignmentAssign, Outcome.bind_ok] at done
    obtain ⟨client, -, -, -, row, -, ⟨assignment, dryRun⟩, -, done⟩ := done
    obtain rfl := Except.ok.inj done
    rfl
  | assignmentSetCapabilities userId caps =>
    simp only [stage, stageAssignmentSetCapabilities, Outcome.bind_ok] at done
    obtain ⟨client, -, -, -, row, -, ⟨assignment, dryRun⟩, -, done⟩ := done
    obtain rfl := Except.ok.inj done
    rfl
  | assignmentUnassign userId =>
    simp only [stage, stageAssignmentUnassign, Outcome.bind_ok] at done
    obtain ⟨client, -, -, -, row, -, dryRun, -, done⟩ := done
    obtain rfl := Except.ok.inj done
    rfl

/-! ## Edits and the comparison -/

/-- The entities some operations were staged on. -/
def targets (clientId : Uuid) (operations : List ProposedOperation) : List Entity :=
  operations.filterMap fun op => (target clientId op).map Prod.fst

/-- The entities whose snapshots a call has compared and not yet committed over. -/
def Call.watched (proposal : ChangeProposal) : Call → List Entity
  | .checking _ _ checked _ => targets proposal.clientId checked
  | .applying .. => targets proposal.clientId proposal.operations
  | _ => []

/-- No other transaction edits a row between its comparison and the commit. -/
def EditsUnwatched (proposal : ChangeProposal) : Machine.Guard World Label
  | w, .edit writes =>
    ∀ call ∈ w.calls, ∀ entity ∈ RowWrite.entities writes, entity ∉ call.watched proposal
  | _, _ => True

instance (w : World) (label : Label) : Decidable (EditsUnwatched proposal w label) :=
  match label with
  | .edit writes => inferInstanceAs (Decidable (∀ call ∈ w.calls,
      ∀ entity ∈ RowWrite.entities writes, entity ∉ call.watched proposal))
  | .readForApproval .. | .claim _ | .readBack _ | .validate .. | .check _ | .execute .. | .finish _
  | .record _ | .readForRejection .. | .cancel _ => .isTrue trivial

/-- What is known of edits: until a call is done, a row was edited exactly when its version
differs from the snapshot, and no watched row was edited. -/
structure Unedited (proposal : ChangeProposal) (w : World) : Prop where
  snapshots : (∀ (c : Nat) call, w.calls[c]? = some call → call.party ≠ .done) →
    ∀ op ∈ proposal.operations, ∀ entity snapshot,
      target proposal.clientId op = some (entity, snapshot) →
        (∀ version, entity.version w.db.tables = some version → snapshot ≤ version) ∧
        (entity ∈ w.edited ↔ entity.version w.db.tables ≠ some snapshot)
  watched : ∀ (c : Nat) call, w.calls[c]? = some call →
    ∀ entity ∈ call.watched proposal, entity ∉ w.edited

/-- A call that moves keeps what is known of edits when it keeps every version, unless it is
done, and watches no edited row. -/
theorem Unedited.commit {w : World} (holds : Unedited proposal w) {c : Nat} {was call : Call}
    {db : Database} (inside : w.calls[c]? = some was) (moving : was.party ≠ .done)
    (kept : call.party ≠ .done → ∀ entity : Entity,
      entity.version db.tables = entity.version w.db.tables)
    (watches : ∀ entity ∈ call.watched proposal, entity ∉ w.edited) :
    Unedited proposal (w.commit c call db) := by
  obtain ⟨bound, -⟩ := List.getElem?_eq_some_iff.mp inside
  constructor
  · intro undone op member entity snapshot staged
    have here : call.party ≠ .done := undone c call (by simp [World.commit, bound])
    rw [show (w.commit c call db).db = db from rfl, kept here entity]
    refine holds.snapshots (fun d other there => ?_) op member entity snapshot staged
    by_cases same : d = c
    · subst same
      rw [inside] at there
      exact Option.some.inj there ▸ moving
    · exact undone d other
        (by simpa [World.commit, List.getElem?_set_ne (Ne.symm same)] using there)
  · intro d other there
    obtain ⟨-, rfl⟩ | ⟨-, there⟩ := calls_set there
    · exact watches
    · exact holds.watched d other there

/-- A row whose comparison succeeds was not edited. -/
theorem Unedited.of_match {w : World} (holds : Unedited proposal w)
    (undone : ∀ (c : Nat) call, w.calls[c]? = some call → call.party ≠ .done)
    {op : ProposedOperation} (member : op ∈ proposal.operations)
    (matched : matchesLiveSnapshot w.db.tables proposal.clientId op = true) (entity : Entity)
    (staged : (target proposal.clientId op).map Prod.fst = some entity) : entity ∉ w.edited := by
  obtain ⟨⟨found, snapshot⟩, goes, rfl⟩ := Option.map_eq_some_iff.mp staged
  have live := matchesLiveSnapshot_iff.mp matched found snapshot goes
  exact fun edited => (holds.snapshots undone op member found snapshot goes).2.mp edited live

/-- After a transaction that may commit, an entity some operation was staged on is unwritten, or
gone, or newer than it was. -/
theorem version_after_edit {w : World} {writes : List RowWrite}
    (legal : editable proposal w writes = true) {op : ProposedOperation}
    (member : op ∈ proposal.operations) {entity : Entity} {snapshot : Timestamp}
    (staged : target proposal.clientId op = some (entity, snapshot)) :
    (entity ∉ RowWrite.entities writes ∧
        entity.version (RowWrite.applyAll w.db.tables writes) = entity.version w.db.tables) ∨
      (entity ∈ RowWrite.entities writes ∧
        ∀ new, entity.version (RowWrite.applyAll w.db.tables writes) = some new →
          ∃ old, entity.version w.db.tables = some old ∧ old < new) := by
  simp only [editable, Bool.and_eq_true, List.all_eq_true] at legal
  obtain ⟨⟨⟨⟨own, advancing⟩, -⟩, -⟩, fresh⟩ := legal
  obtain ⟨write, inside, goes⟩ | untouched := RowWrite.version_applyAll own entity
  · have written : entity ∈ RowWrite.entities writes :=
      List.mem_filterMap.mpr ⟨write, inside, by rw [goes, Option.map_some]⟩
    refine .inr ⟨written, fun new after => ?_⟩
    rw [after] at goes
    have present : (entity.version w.db.tables).isSome = true := by
      have either := fresh entity written
      rw [Bool.or_eq_true] at either
      obtain known | unnamed := either
      · exact known
      · have apart := List.all_eq_true.mp unnamed op member
        rw [staged, Option.all_some, decide_eq_true_eq] at apart
        exact absurd rfl apart
    obtain ⟨old, live⟩ := Option.isSome_iff_exists.mp present
    refine ⟨old, live, ?_⟩
    have advance := advancing write inside
    simpa [RowWrite.advances, goes, live] using advance
  · exact .inl untouched

/-- Every step whose edits avoid the watched rows keeps what is known of edits. -/
theorem unedited_step {w w' : World} {label : Label}
    (reached : (machine env proposal).Reachable (EditsUnwatched proposal) w)
    (holds : Unedited proposal w) (meets : EditsUnwatched proposal w label)
    (taken : Step env proposal w label w') : Unedited proposal w' := by
  have traced := traced_of_reachable reached
  cases taken with
  | turnedAway c user exc was | admitted c user was | returned c read was found
  | crashed c user now session executed exc was | refusedRejection c user reason exc was
  | rejectable c user reason was passed =>
    exact holds.commit was (by simp [Call.party]) (fun _ _ => rfl) (by simp [Call.watched])
  | claimed c user was updated =>
    exact holds.commit was (by simp [Call.party]) (fun _ entity => by cases entity <;> rfl)
      (by simp [Call.watched])
  | lost c user was missed =>
    rw [claim_missed missed]
    exact holds.commit was (by simp [Call.party]) (fun _ _ => rfl) (by simp [Call.watched])
  | validated c now user read was there =>
    refine holds.commit was (by simp [Call.party]) (fun _ _ => rfl) ?_
    rcases validated_cases w.db.tables now user read with same | ⟨reason, same⟩ | ⟨exc, same⟩ <;>
      simp [same, Call.watched, targets]
  | checked c user now checked rest was =>
    refine holds.commit was (by simp [Call.party]) (fun _ _ => rfl) ?_
    have before := holds.watched c _ was
    have all := traced.checking c user now checked rest was
    obtain ⟨rfl, same⟩ | ⟨op, later, rfl, ⟨matched, same⟩ | same⟩ :=
      checkNext_cases w.db.tables user now checked rest
    · rw [List.append_nil] at all
      rw [same]
      simpa [Call.watched, all] using before
    · rw [same]
      intro entity watched
      simp only [Call.watched, targets, List.filterMap_append, List.mem_append] at watched
      obtain earlier | last := watched
      · exact before entity earlier
      · simp only [List.mem_filterMap, List.mem_singleton, exists_eq_left] at last
        exact holds.of_match (undone_of_won reached was rfl) (by simp [← all]) matched entity last
    · simp [same, Call.watched]
  | executed c tick user now session executed op rest was =>
    refine holds.commit was (by simp [Call.party]) (fun _ _ => rfl) ?_
    have before := holds.watched c _ was
    obtain ⟨marked, after, -, same⟩ | ⟨seq, message, same⟩ | ⟨exc, same⟩ :=
      executeNext_cases env tick user now session executed op rest
    · rw [same]
      exact before
    · simp [same, Call.watched]
    · simp [same, Call.watched]
  | completed c user now session executed db was committed =>
    exact holds.commit was (by simp [Call.party]) (fun undone => absurd rfl undone)
      (by simp [Call.watched])
  | unfit c reason was =>
    exact holds.commit was (by simp [Call.party]) (fun undone => absurd rfl undone)
      (by simp [Call.watched])
  | refused c seq message was =>
    exact holds.commit was (by simp [Call.party]) (fun undone => absurd rfl undone)
      (by simp [Call.watched])
  | rejected c reason was =>
    exact holds.commit was (by simp [Call.party]) (fun _ entity => by cases entity <;> rfl)
      (by simp [Call.watched])
  | edited writes db legal committed =>
    have after : ∀ entity : Entity, entity.version db.tables =
        entity.version (RowWrite.applyAll w.db.tables writes) := by
      intro entity
      rw [commit_ok committed, Entity.version_stored]
    constructor
    · intro undone op member entity snapshot staged
      have before := holds.snapshots (fun d other there => by
        rw [← observe_party writes other]
        exact undone d _ (by simp [there])) op member entity snapshot staged
      dsimp only
      rw [after, List.mem_append]
      obtain ⟨unwritten, kept⟩ | ⟨written, newer⟩ := version_after_edit legal member staged
      · simpa only [kept, unwritten, or_false] using before
      · have later : ∀ new, entity.version (RowWrite.applyAll w.db.tables writes) = some new →
            snapshot < new := by
          intro new version
          obtain ⟨old, live, advance⟩ := newer new version
          exact Int.lt_of_le_of_lt (before.1 old live) advance
        refine ⟨fun new version => Int.le_of_lt (later new version), ?_⟩
        simp only [written, or_true, true_iff]
        exact fun version => Int.lt_irrefl _ (later snapshot version)
    · intro d call there entity watched
      obtain ⟨was, before, rfl⟩ := calls_observe there
      have same : (was.observe writes).watched proposal = was.watched proposal := by
        cases was <;> rfl
      rw [same] at watched
      have unwritten : entity ∉ RowWrite.entities writes := fun written =>
        meets was (List.mem_of_getElem? before) entity written watched
      simpa [unwritten] using holds.watched d was before entity watched

/-- What is known of edits in every world reached with edits that avoid the watched rows. -/
theorem unedited_of_reachable {w : World}
    (reached : (machine env proposal).Reachable (EditsUnwatched proposal) w) :
    Unedited proposal w := by
  apply reached.induction
  · intro w first
    refine ⟨fun _ op member entity snapshot staged =>
      first.snapshots op member entity snapshot staged, ?_⟩
    intro c call there
    obtain rfl := first.idle call (List.mem_of_getElem? there)
    simp [Call.watched]
  · intro w label w' before holds meets taken
    exact unedited_step before holds meets (step_of_next taken)

/-- When no other transaction edits a row between its comparison and the commit, no call
commits an operation over an edit: at the commit the row an operation was staged on is unedited
and has the staged version. A call that compares an edited row fails the proposal. -/
theorem completes_over_no_edit (env : Environment) (proposal : ChangeProposal) (w : World)
    (reached : (machine env proposal).Reachable (EditsUnwatched proposal) w) :
    (∀ (c : Nat) w' user executed, next env proposal w (.finish c) = some w' →
      w'.calls[c]? = some (.completed user executed) →
      ∀ op ∈ proposal.operations, ∀ entity snapshot,
        target proposal.clientId op = some (entity, snapshot) →
        entity ∉ w.edited ∧ entity.version w.db.tables = some snapshot) ∧
    ∀ (c : Nat) user now checked op rest entity snapshot,
      w.calls[c]? = some (.checking user now checked (op :: rest)) →
      target proposal.clientId op = some (entity, snapshot) → entity ∈ w.edited →
      next env proposal w (.check c) = some (w.move c (.unfit staleReason)) := by
  have known := unedited_of_reachable reached
  constructor
  · intro c w' user executed taken done op member entity snapshot staged
    have applying : ∃ user now session executed,
        w.calls[c]? = some (.applying user now session executed []) := by
      cases step_of_next taken with
      | crashed c user now session executed exc was => exact ⟨_, _, _, _, was⟩
      | completed c user now session executed db was committed => exact ⟨_, _, _, _, was⟩
    obtain ⟨_, _, _, _, was⟩ := applying
    have clear : entity ∉ w.edited := by
      apply known.watched c _ was entity
      exact List.mem_filterMap.mpr ⟨op, member, by rw [staged, Option.map_some]⟩
    refine ⟨clear, ?_⟩
    have facts := known.snapshots (undone_of_won reached was rfl) op member entity snapshot staged
    by_cases live : entity.version w.db.tables = some snapshot
    · exact live
    · exact absurd (facts.2.mpr live) clear
  · intro c user now checked op rest entity snapshot was staged edited
    have all := (traced_of_reachable reached).checking c user now checked (op :: rest) was
    have stale : matchesLiveSnapshot w.db.tables proposal.clientId op = false := by
      refine Bool.eq_false_iff.mpr fun matched => ?_
      exact known.of_match (undone_of_won reached was rfl) (by simp [← all]) matched entity
        (by rw [staged, Option.map_some]) edited
    simp only [next, was, checkNext, stale, Bool.false_eq_true, ↓reduceIte]

/-- The sample proposal, staged on the task as it is. -/
def sampleSnapshot : ChangeProposal := sampleProposal [{ sampleRename with baseSnapshot := some 0 }]

/-- One idle call on it. -/
def sampleSnapshotRace : World := ⟨sampleDatabase [sampleSnapshot], [.idle], []⟩

/-- The proposal was just staged. -/
theorem sampleSnapshotRace_start : Start sampleSnapshot sampleSnapshotRace where
  pending := by decide
  untraced := rfl
  idle := by decide
  snapshots := by
    have staged : ∀ op ∈ sampleSnapshot.operations,
        target sampleSnapshot.clientId op = some (.planTask 2 3, 0) := by decide
    intro op member entity snapshot goes
    obtain ⟨rfl, rfl⟩ := Prod.mk.inj (Option.some.inj ((staged op member).symm.trans goes))
    have live : (Entity.planTask 2 3).version sampleSnapshotRace.db.tables = some 0 := by decide
    rw [live]
    exact ⟨fun version same => by cases same; decide, by simp [sampleSnapshotRace]⟩

/-- Another user renames the task. -/
def sampleEdit : Label :=
  .edit [.planTask 2 3 (some { sampleTask with title := some "By hand", updatedAt := 5 })]

set_option maxRecDepth 8000 in
/-- An edit between the claim and the comparison: the comparison fails the proposal. -/
theorem early_edit_is_stale :
    ∃ w, (machine sampleEnv sampleSnapshot).play (EditsUnwatched sampleSnapshot) sampleSnapshotRace
        [.readForApproval 0 sampleAdmin, .claim 0, .validate 0 20, sampleEdit] = some w ∧
      next sampleEnv sampleSnapshot w (.check 0) = some (w.move 0 (.unfit staleReason)) := by
  have played : ((machine sampleEnv sampleSnapshot).play (EditsUnwatched sampleSnapshot)
      sampleSnapshotRace [.readForApproval 0 sampleAdmin, .claim 0, .validate 0 20,
        sampleEdit]).map (fun w => (w.calls[0]?, w.edited)) =
      some (some (.checking sampleAdmin 20 [] sampleSnapshot.operations), [.planTask 2 3]) := by
    decide
  obtain ⟨w, run, shown⟩ := Option.map_eq_some_iff.mp played
  obtain ⟨was, edited⟩ := Prod.mk.inj shown
  have known := completes_over_no_edit sampleEnv sampleSnapshot w
    ⟨sampleSnapshotRace, _, sampleSnapshotRace_start, Machine.run_of_play run⟩
  refine ⟨w, run, known.2 0 sampleAdmin 20 [] _ [] (.planTask 2 3) 0 was (by decide) ?_⟩
  rw [edited]
  exact List.mem_singleton.mpr rfl

set_option maxRecDepth 8000 in
/-- An edit that commits after the comparison and before the operation is executed: the call
completes the proposal and the other user's title is gone. -/
theorem edit_after_comparison_is_lost :
    Start sampleSnapshot sampleSnapshotRace ∧
      ∃ checked edited completed,
        (machine sampleEnv sampleSnapshot).play Machine.anyStep sampleSnapshotRace
          [.readForApproval 0 sampleAdmin, .claim 0, .validate 0 20, .check 0, .check 0] =
            some checked ∧
        next sampleEnv sampleSnapshot checked sampleEdit = some edited ∧
        edited.db.tables.planTasks.map PlanTask.title = [some "By hand"] ∧
        (machine sampleEnv sampleSnapshot).play Machine.anyStep edited
          [.execute 0 (sampleTicks 0), .finish 0] = some completed ∧
        completed.status sampleSnapshot = some .completed ∧
        completed.db.tables.planTasks.map PlanTask.title = [some "Final"] := by
  let start := (machine sampleEnv sampleSnapshot).play Machine.anyStep sampleSnapshotRace
    [.readForApproval 0 sampleAdmin, .claim 0, .validate 0 20, .check 0, .check 0]
  let later := start.bind fun w => next sampleEnv sampleSnapshot w sampleEdit
  have first : later.map (fun w => w.db.tables.planTasks.map PlanTask.title) =
      some [some "By hand"] := by decide
  have second : (later.bind fun w => (machine sampleEnv sampleSnapshot).play Machine.anyStep w
      [.execute 0 (sampleTicks 0), .finish 0]).map
        (fun w => (w.status sampleSnapshot, w.db.tables.planTasks.map PlanTask.title)) =
      some (some .completed, [some "Final"]) := by decide
  obtain ⟨edited, reached, title⟩ := Option.map_eq_some_iff.mp first
  rw [reached, Option.bind_some] at second
  obtain ⟨completed, run, shown⟩ := Option.map_eq_some_iff.mp second
  obtain ⟨status, final⟩ := Prod.mk.inj shown
  obtain ⟨checked, before, taken⟩ := Option.bind_eq_some_iff.mp reached
  exact ⟨sampleSnapshotRace_start, checked, edited, completed, before, taken, title, run, status,
    final⟩

end ProposalRace

end MarketingOS
