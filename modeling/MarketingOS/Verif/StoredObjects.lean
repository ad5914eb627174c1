import Mathlib.Tactic.ByContra
import MarketingOS.Services.UploadStorage
import MarketingOS.Verif.DownloadLinks

/-!
# Stored objects

Every committed upload against the object it names. `delete` removes the object before the row, so
a commit that fails leaves a row without one; `store_bytes` takes its object back when the commit
fails, and for no other failure.
-/
namespace MarketingOS.UploadService

variable {settings : Settings}

/-! ## Keys -/

/-- The keys of different uploads differ. -/
theorem buildKey_injective {left right : Uuid} {name name' : String}
    (same : buildKey settings left name = buildKey settings right name') : left = right := by
  have chars := congrArg String.toList same
  simp only [buildKey, String.toList_append, ToString.toString, List.append_assoc,
    List.append_cancel_left_eq] at chars
  have prints := List.append_inj_left chars
    ((DownloadLink.length_print left).trans (DownloadLink.length_print right).symm)
  exact Uuid.print_injective (String.toList_inj.mp prints)

/-- A key of an identifier that was drawn. -/
def KeyOf (settings : Settings) (drawn : List Uuid) (key : String) : Prop :=
  ∃ uploadId ∈ drawn, ∃ name, key = buildKey settings uploadId name

/-- A key of more identifiers. -/
theorem KeyOf.weaken {drawn : List Uuid} {key : String} (isKey : KeyOf settings drawn key)
    (uploadId : Uuid) : KeyOf settings (uploadId :: drawn) key := by
  obtain ⟨other, inside, name, rfl⟩ := isKey
  exact ⟨other, List.mem_cons_of_mem _ inside, name, rfl⟩

/-- A key of a new identifier is none of the others. -/
theorem KeyOf.ne_new {drawn : List Uuid} {key name : String} {uploadId : Uuid}
    (isKey : KeyOf settings drawn key) (fresh : uploadId ∉ drawn) :
    key ≠ buildKey settings uploadId name := by
  obtain ⟨other, inside, name', rfl⟩ := isKey
  exact fun same => fresh (buildKey_injective same ▸ inside)

/-- Every key belongs to an identifier that was drawn, that of a row to the row's. -/
structure Keyed (settings : Settings) (w : StorageWorld) : Prop where
  rows : ∀ upload ∈ w.systems.uploads, upload.id ∈ w.drawn ∧
    ∃ name, upload.storageKey = buildKey settings upload.id name
  objects : ∀ key ∈ w.systems.objects, KeyOf settings w.drawn key
  withdrawn : ∀ key ∈ w.withdrawn, KeyOf settings w.drawn key

/-- Every committed row names an object that exists, and a call of `store_bytes` that raised left
neither a row nor an object. -/
structure Backed (w : StorageWorld) : Prop where
  rows : ∀ upload ∈ w.systems.uploads, upload.storageKey ∈ w.systems.objects
  withdrawn : ∀ key ∈ w.withdrawn, key ∉ w.systems.objects ∧
    ∀ upload ∈ w.systems.uploads, upload.storageKey ≠ key

/-! ## The calls that keep it -/

/-- The calls of a `store_bytes` that leave the two systems in step: one that fails before the
commit takes no effect; the commit succeeds and the row is read again; or the commit takes no
effect, or its object stays. -/
def StoreCalls.Clean (calls : StoreCalls) : Prop :=
  match calls.upload with
  | .failed applied _ => applied = false
  | .done =>
    match calls.commit with
    | .done => calls.refresh = .done
    | .failed applied _ => applied = false ∨ calls.undo.applies = false

/-- The calls of a `delete` that leave the two systems in step: the object stays, or the deletion of
the row is reached and committed. -/
def DeleteCalls.Clean (calls : DeleteCalls) : Prop :=
  calls.remove.applies = false ∨ (safeDelete calls.remove = none ∧ calls.commit.applies = true)

/-- A call is refused before it reaches the systems, or its calls leave them in step. -/
def InStep (settings : Settings) (w : StorageWorld) : StorageLabel → Prop
  | .store user uploadId file now calls =>
    (∃ refusal, storeBytes settings user uploadId file now = .error refusal) ∨ calls.Clean
  | .delete user uploadId calls =>
    (∃ exc, loadOwned w.systems.uploads user uploadId = .error exc) ∨ calls.Clean

/-! ## One call -/

/-- The row of a stored file has the identifier that was drawn and its key. -/
theorem storeBytes_ok {user : User} {uploadId : Uuid} {file : Incoming} {now : Timestamp}
    {upload : Upload} (stored : storeBytes settings user uploadId file now = .ok upload) :
    upload.id = uploadId ∧ ∃ name, upload.storageKey = buildKey settings uploadId name := by
  unfold storeBytes at stored
  cases valid : validate settings file.filename file.contentType file.sizeBytes with
  | error refusal =>
    rw [valid] at stored
    cases stored
  | ok _ =>
    rw [valid] at stored
    obtain rfl := Except.ok.inj stored
    exact ⟨rfl, _, rfl⟩

/-- The objects after a removal. -/
theorem mem_drop {s : Systems} {call : Call} {key other : String} :
    other ∈ (s.drop call key).objects ↔
      other ∈ s.objects ∧ (call.applies = true → other ≠ key) := by
  unfold Systems.drop
  split
  · next applies =>
    exact List.mem_filter.trans (and_congr Iff.rfl ⟨fun apart _ => of_decide_eq_true apart,
      fun apart => decide_eq_true (apart applies)⟩)
  · next kept => exact ⟨fun inside => ⟨inside, fun applies => absurd applies kept⟩, And.left⟩

/-- A removal of an object leaves the rows. -/
theorem uploads_drop (s : Systems) (call : Call) (key : String) :
    (s.drop call key).uploads = s.uploads := by
  unfold Systems.drop
  split <;> rfl

/-- The rows after a deletion. -/
theorem mem_remove {s : Systems} {call : Call} {uploadId : Uuid} {upload : Upload} :
    upload ∈ (s.remove call uploadId).uploads ↔
      upload ∈ s.uploads ∧ (call.applies = true → upload.id ≠ uploadId) := by
  unfold Systems.remove
  split
  · next applies =>
    exact List.mem_filter.trans (and_congr Iff.rfl ⟨fun apart _ => of_decide_eq_true apart,
      fun apart => decide_eq_true (apart applies)⟩)
  · next kept => exact ⟨fun inside => ⟨inside, fun applies => absurd applies kept⟩, And.left⟩

namespace StoreCalls

variable (calls : StoreCalls)

/-- Whether the row of a stored file is there after the calls. -/
def leavesRow : Bool := calls.upload = .done && calls.commit.applies

/-- Whether its object is. -/
def leavesObject : Bool :=
  match calls.upload with
  | .failed applied _ => applied
  | .done =>
    match calls.commit with
    | .done => true
    | .failed _ _ => !calls.undo.applies

/-- Whether the calls raise, without a compensating delete that fails. -/
def withdraws : Bool :=
  match calls.upload with
  | .failed _ _ => true
  | .done =>
    match calls.commit with
    | .done => calls.refresh ≠ .done
    | .failed _ _ => calls.undo = .done

/-- The calls are clean when a row has its object and what is withdrawn leaves nothing. -/
theorem clean_iff : calls.Clean ↔ (calls.leavesRow = true → calls.leavesObject = true) ∧
    (calls.withdraws = true → calls.leavesObject = false ∧ calls.leavesRow = false) := by
  obtain ⟨upload, commit, undo, refresh⟩ := calls
  cases upload with
  | failed applied exc => simp [Clean, leavesRow, leavesObject, withdraws]
  | done =>
    cases commit with
    | done => simp [Clean, leavesRow, leavesObject, withdraws, Call.applies]
    | failed applied exc =>
      cases undo with
      | done => cases applied <;> simp [Clean, leavesRow, leavesObject, withdraws, Call.applies]
      | failed undone exc' =>
        cases applied <;> simp [Clean, leavesRow, leavesObject, withdraws, Call.applies]

end StoreCalls

section Store

variable {user : User} {uploadId : Uuid} {file : Incoming} {now : Timestamp} {upload : Upload}

/-- The systems after a `store_bytes`. -/
theorem systems_store (stored : storeBytes settings user uploadId file now = .ok upload)
    (calls : StoreCalls) (s : Systems) :
    (storeBytesWith settings user uploadId file now calls s).1 =
      match calls.upload with
      | .failed _ _ => s.put calls.upload upload.storageKey
      | .done =>
        match calls.commit with
        | .done => (s.put .done upload.storageKey).insert .done upload
        | .failed applied exc =>
          ((s.put .done upload.storageKey).insert (.failed applied exc) upload).drop calls.undo
            upload.storageKey := by
  obtain ⟨put, commit, undo, refresh⟩ := calls
  unfold storeBytesWith
  rw [stored]
  cases put with
  | failed applied exc => rfl
  | done =>
    cases commit with
    | done => cases refresh <;> rfl
    | failed applied exc =>
      dsimp only
      cases safeDelete undo <;> rfl

/-- The rows after a `store_bytes`. -/
theorem uploads_store (stored : storeBytes settings user uploadId file now = .ok upload)
    (calls : StoreCalls) (s : Systems) :
    (storeBytesWith settings user uploadId file now calls s).1.uploads =
      s.uploads ++ if calls.leavesRow then [upload] else [] := by
  obtain ⟨put, commit, undo, refresh⟩ := calls
  rw [systems_store stored]
  cases put with
  | failed applied exc => cases applied <;> exact (List.append_nil _).symm
  | done =>
    cases commit with
    | done => rfl
    | failed applied exc =>
      dsimp only
      rw [uploads_drop]
      cases applied with
      | true => rfl
      | false => exact (List.append_nil _).symm

/-- The objects after a `store_bytes` under a new key. -/
theorem mem_objects_store (stored : storeBytes settings user uploadId file now = .ok upload)
    (calls : StoreCalls) {s : Systems} (fresh : upload.storageKey ∉ s.objects) (key : String) :
    key ∈ (storeBytesWith settings user uploadId file now calls s).1.objects ↔
      key ∈ s.objects ∨ (calls.leavesObject = true ∧ key = upload.storageKey) := by
  obtain ⟨put, commit, undo, refresh⟩ := calls
  rw [systems_store stored]
  cases put with
  | failed applied exc =>
    cases applied with
    | true => simp [Systems.put, Call.applies, StoreCalls.leavesObject, or_comm]
    | false => simp [Systems.put, Call.applies, StoreCalls.leavesObject]
  | done =>
    cases commit with
    | done => simp [Systems.put, Systems.insert, Call.applies, StoreCalls.leavesObject, or_comm]
    | failed applied exc =>
      have objects : ((s.put .done upload.storageKey).insert (.failed applied exc) upload).objects =
          upload.storageKey :: s.objects := by
        cases applied <;> rfl
      dsimp only [StoreCalls.leavesObject]
      rw [mem_drop, objects, List.mem_cons]
      cases undo.applies with
      | false => simp [or_comm]
      | true =>
        constructor
        · rintro ⟨same | inside, apart⟩
          · exact absurd same (apart rfl)
          · exact .inl inside
        · rintro (inside | ⟨⟨⟩, _⟩)
          exact ⟨.inr inside, fun _ same => fresh (same ▸ inside)⟩

/-- The key a `store_bytes` withdraws. -/
theorem withdrawnKey_store (stored : storeBytes settings user uploadId file now = .ok upload)
    (calls : StoreCalls) (s : Systems) :
    withdrawnKey settings user uploadId file now calls s =
      if calls.withdraws then [upload.storageKey] else [] := by
  obtain ⟨put, commit, undo, refresh⟩ := calls
  unfold withdrawnKey storeBytesWith
  rw [stored]
  cases put with
  | failed applied exc => rfl
  | done =>
    cases commit with
    | done => cases refresh <;> rfl
    | failed applied exc =>
      dsimp only
      cases undo with
      | done => rfl
      | failed undone exc' => cases exc' <;> rfl

end Store

/-- The rows after a `delete`. -/
theorem mem_uploads_delete {user : User} {uploadId : Uuid} {upload : Upload} {s : Systems}
    (owned : loadOwned s.uploads user uploadId = .ok upload) (calls : DeleteCalls) (row : Upload) :
    row ∈ (deleteWith user uploadId calls s).1.uploads ↔ row ∈ s.uploads ∧
      (safeDelete calls.remove = none → calls.commit.applies = true → row.id ≠ uploadId) := by
  unfold deleteWith
  rw [owned]
  dsimp only
  cases passed : safeDelete calls.remove with
  | some exc =>
    dsimp only
    rw [uploads_drop]
    exact ⟨fun inside => ⟨inside, nofun⟩, And.left⟩
  | none =>
    have rows :
        row ∈ ((s.drop calls.remove upload.storageKey).remove calls.commit uploadId).uploads ↔
        row ∈ s.uploads ∧ (calls.commit.applies = true → row.id ≠ uploadId) := by
      rw [mem_remove, uploads_drop]
    dsimp only
    cases committed : calls.commit with
    | done =>
      rw [committed] at rows
      exact rows.trans (and_congr Iff.rfl ⟨fun apart _ => apart, fun apart => apart rfl⟩)
    | failed applied exc =>
      rw [committed] at rows
      exact rows.trans (and_congr Iff.rfl ⟨fun apart _ => apart, fun apart => apart rfl⟩)

/-- The objects after a `delete`. -/
theorem mem_objects_delete {user : User} {uploadId : Uuid} {upload : Upload} {s : Systems}
    (owned : loadOwned s.uploads user uploadId = .ok upload) (calls : DeleteCalls) (key : String) :
    key ∈ (deleteWith user uploadId calls s).1.objects ↔
      key ∈ s.objects ∧ (calls.remove.applies = true → key ≠ upload.storageKey) := by
  have removed (s : Systems) (call : Call) (uploadId : Uuid) :
      (s.remove call uploadId).objects = s.objects := by
    unfold Systems.remove
    split <;> rfl
  unfold deleteWith
  rw [owned, ← mem_drop]
  dsimp only
  cases safeDelete calls.remove with
  | some exc => exact Iff.rfl
  | none =>
    have objects := removed (s.drop calls.remove upload.storageKey) calls.commit uploadId
    dsimp only
    cases committed : calls.commit with
    | done =>
      rw [committed] at objects
      exact objects ▸ Iff.rfl
    | failed applied exc =>
      rw [committed] at objects
      exact objects ▸ Iff.rfl

/-! ## Every sequence -/

variable {w w' : StorageWorld}

/-- A row that is loaded is there, under the identifier that was asked for. -/
theorem loadOwned_row {uploads : List Upload} {user : User} {uploadId : Uuid} {upload : Upload}
    (owned : loadOwned uploads user uploadId = .ok upload) :
    upload ∈ uploads ∧ upload.id = uploadId := by
  unfold loadOwned at owned
  cases found : get uploads uploadId with
  | none =>
    rw [found] at owned
    cases owned
  | some row =>
    rw [found] at owned
    dsimp only at owned
    split at owned
    · cases owned
    · obtain rfl := Except.ok.inj owned
      exact ⟨Table.get_mem found, Table.get_key found⟩

/-- A refused call changes nothing of the systems. -/
theorem storeBytesWith_refused {user : User} {uploadId : Uuid} {file : Incoming} {now : Timestamp}
    {refusal : Refusal} (refused : storeBytes settings user uploadId file now = .error refusal)
    (calls : StoreCalls) (s : Systems) :
    storeBytesWith settings user uploadId file now calls s = (s, .error (.refused refusal)) ∧
      withdrawnKey settings user uploadId file now calls s = [] := by
  unfold withdrawnKey storeBytesWith
  rw [refused]
  exact ⟨rfl, rfl⟩

/-- Keys belong to identifiers that were drawn after a call. -/
theorem keyed_next {label : StorageLabel} (keyed : Keyed settings w)
    (taken : storageNext settings w label = some w') : Keyed settings w' := by
  cases label with
  | store user uploadId file now calls =>
    unfold storageNext at taken
    dsimp only at taken
    split at taken
    · cases taken
    rename_i fresh
    rw [List.contains_iff_mem] at fresh
    obtain rfl := Option.some.inj taken
    have older : ∀ key, KeyOf settings w.drawn key → KeyOf settings (uploadId :: w.drawn) key :=
      fun _ isKey => isKey.weaken uploadId
    cases stored : storeBytes settings user uploadId file now with
    | error refusal =>
      obtain ⟨same, none⟩ := storeBytesWith_refused stored calls w.systems
      rw [same, none]
      exact ⟨fun upload inside => ⟨List.mem_cons_of_mem _ (keyed.rows upload inside).1,
        (keyed.rows upload inside).2⟩, fun key inside => older key (keyed.objects key inside),
        fun key inside => older key (keyed.withdrawn key inside)⟩
    | ok upload =>
      obtain ⟨isId, name, isKey⟩ := storeBytes_ok stored
      have new : KeyOf settings (uploadId :: w.drawn) upload.storageKey :=
        ⟨uploadId, List.mem_cons_self, name, isKey⟩
      have absent : upload.storageKey ∉ w.systems.objects := fun inside =>
        (keyed.objects _ inside).ne_new fresh isKey
      have rows := uploads_store stored calls w.systems
      have objects (key : String) := mem_objects_store stored calls absent key
      have withdraws := withdrawnKey_store stored calls w.systems
      generalize storeBytesWith settings user uploadId file now calls w.systems = after at *
      refine ⟨fun row inside => ?_, fun key inside => ?_, fun key inside => ?_⟩
      · rw [rows] at inside
        obtain old | isNew := List.mem_append.mp inside
        · exact ⟨List.mem_cons_of_mem _ (keyed.rows row old).1, (keyed.rows row old).2⟩
        · split at isNew
          · obtain rfl := List.mem_singleton.mp isNew
            rw [isId]
            exact ⟨List.mem_cons_self, name, isKey⟩
          · cases isNew
      · obtain old | ⟨-, rfl⟩ := (objects key).mp inside
        · exact older key (keyed.objects key old)
        · exact new
      · rw [withdraws] at inside
        obtain isNew | old := List.mem_append.mp inside
        · split at isNew
          · obtain rfl := List.mem_singleton.mp isNew
            exact new
          · cases isNew
        · exact older key (keyed.withdrawn key old)
  | delete user uploadId calls =>
    obtain rfl := Option.some.inj taken
    cases owned : loadOwned w.systems.uploads user uploadId with
    | error exc =>
      unfold deleteWith
      rw [owned]
      exact keyed
    | ok upload =>
      exact ⟨fun row inside => keyed.rows row ((mem_uploads_delete owned calls row).mp inside).1,
        fun key inside => keyed.objects key ((mem_objects_delete owned calls key).mp inside).1,
        keyed.withdrawn⟩

/-- A call leaves the systems in step exactly when it is refused or its calls are clean. -/
theorem backed_next {label : StorageLabel} (keyed : Keyed settings w) (backed : Backed w)
    (taken : storageNext settings w label = some w') :
    Backed w' ↔ InStep settings w label := by
  cases label with
  | store user uploadId file now calls =>
    unfold storageNext at taken
    dsimp only at taken
    split at taken
    · cases taken
    rename_i fresh
    rw [List.contains_iff_mem] at fresh
    obtain rfl := Option.some.inj taken
    cases stored : storeBytes settings user uploadId file now with
    | error refusal =>
      obtain ⟨same, none⟩ := storeBytesWith_refused stored calls w.systems
      rw [same, none]
      exact ⟨fun _ => .inl ⟨refusal, stored⟩, fun _ => ⟨backed.rows, backed.withdrawn⟩⟩
    | ok upload =>
      obtain ⟨-, name, isKey⟩ := storeBytes_ok stored
      have absent : upload.storageKey ∉ w.systems.objects := fun inside =>
        (keyed.objects _ inside).ne_new fresh isKey
      have guard : InStep settings w (.store user uploadId file now calls) ↔ calls.Clean := by
        constructor
        · rintro (⟨refusal, refused⟩ | clean)
          · rw [stored] at refused
            cases refused
          · exact clean
        · exact .inr
      rw [guard, StoreCalls.clean_iff]
      have rows := uploads_store stored calls w.systems
      have objects (key : String) := mem_objects_store stored calls absent key
      have withdraws := withdrawnKey_store stored calls w.systems
      generalize storeBytesWith settings user uploadId file now calls w.systems = after at *
      constructor
      · intro kept
        refine ⟨fun hasRow => ?_, fun raises => ?_⟩
        · have inside := kept.rows upload (by rw [rows, if_pos hasRow]; simp)
          exact ((objects _).mp inside).elim (fun old => absurd old absent) And.left
        · obtain ⟨gone, noRow⟩ := kept.withdrawn upload.storageKey
            (List.mem_append_left _ (by rw [withdraws, if_pos raises]; simp))
          refine ⟨Bool.eq_false_iff.mpr fun hasObject => ?_, Bool.eq_false_iff.mpr fun hasRow => ?_⟩
          · exact gone ((objects _).mpr (.inr ⟨hasObject, rfl⟩))
          · exact noRow upload (by rw [rows, if_pos hasRow]; simp) rfl
      · rintro ⟨whole, clean⟩
        refine ⟨fun row inside => ?_, fun key inside => ?_⟩
        · rw [rows] at inside
          obtain old | isNew := List.mem_append.mp inside
          · exact (objects _).mpr (.inl (backed.rows row old))
          · split at isNew
            · next hasRow =>
              obtain rfl := List.mem_singleton.mp isNew
              exact (objects _).mpr (.inr ⟨whole hasRow, rfl⟩)
            · cases isNew
        · rw [withdraws] at inside
          obtain isNew | old := List.mem_append.mp inside
          · split at isNew
            · next raises =>
              obtain rfl := List.mem_singleton.mp isNew
              obtain ⟨noObject, noRow⟩ := clean raises
              refine ⟨fun present => ?_, fun row inside => ?_⟩
              · obtain old | ⟨hasObject, -⟩ := (objects _).mp present
                · exact absent old
                · rw [noObject] at hasObject
                  cases hasObject
              · rw [rows, noRow, if_neg Bool.false_ne_true, List.append_nil] at inside
                exact fun same => absent (same ▸ backed.rows row inside)
            · cases isNew
          · have apart : key ≠ upload.storageKey := isKey ▸ (keyed.withdrawn key old).ne_new fresh
            obtain ⟨gone, noRow⟩ := backed.withdrawn key old
            refine ⟨fun present => ?_, fun row inside => ?_⟩
            · exact ((objects _).mp present).elim gone fun isNew => apart isNew.2
            · rw [rows] at inside
              obtain old | isNew := List.mem_append.mp inside
              · exact noRow row old
              · split at isNew
                · obtain rfl := List.mem_singleton.mp isNew
                  exact apart.symm
                · cases isNew
  | delete user uploadId calls =>
    obtain rfl := Option.some.inj taken
    cases owned : loadOwned w.systems.uploads user uploadId with
    | error exc =>
      unfold deleteWith
      rw [owned]
      exact ⟨fun _ => .inl ⟨exc, owned⟩, fun _ => ⟨backed.rows, backed.withdrawn⟩⟩
    | ok upload =>
      obtain ⟨inside, isId⟩ := loadOwned_row owned
      have guard : InStep settings w (.delete user uploadId calls) ↔ calls.Clean := by
        constructor
        · rintro (⟨exc, refused⟩ | clean)
          · rw [owned] at refused
            cases refused
          · exact clean
        · exact .inr
      rw [guard]
      have rows (row : Upload) := mem_uploads_delete owned calls row
      have objects (key : String) := mem_objects_delete owned calls key
      generalize deleteWith user uploadId calls w.systems = after at *
      constructor
      · intro kept
        by_cases removes : calls.remove.applies = true
        · refine .inr ?_
          by_contra stays
          have row : upload ∈ after.1.uploads :=
            (rows upload).mpr ⟨inside, fun passes commits => absurd ⟨passes, commits⟩ stays⟩
          exact ((objects _).mp (kept.rows upload row)).2 removes rfl
        · exact .inl (Bool.eq_false_iff.mpr removes)
      · intro clean
        refine ⟨fun row inside' => ?_, fun key withdrawn => ?_⟩
        · obtain ⟨old, apart⟩ := (rows row).mp inside'
          refine (objects _).mpr ⟨backed.rows row old, fun removes same => ?_⟩
          obtain kept | ⟨passes, commits⟩ := clean
          · rw [kept] at removes
            cases removes
          · obtain ⟨-, name, isKey⟩ := keyed.rows row old
            obtain ⟨-, name', isKey'⟩ := keyed.rows upload inside
            rw [isKey, isKey'] at same
            exact apart passes commits ((buildKey_injective same).trans isId)
        · obtain ⟨gone, noRow⟩ := backed.withdrawn key withdrawn
          exact ⟨fun present => gone ((objects _).mp present).1,
            fun row inside' => noRow row ((rows row).mp inside').1⟩

/-- **A committed upload always has its object**, and a call that raised left nothing, all along a
sequence of calls exactly when each of them is refused or its calls are clean. -/
theorem backed_iff {first last : StorageWorld} {labels : List StorageLabel}
    (started : (storageMachine settings).start first)
    (run : (storageMachine settings).Run Machine.anyStep first labels last) :
    (∀ early middle, early <+: labels →
        (storageMachine settings).Run Machine.anyStep first early middle → Backed middle) ↔
      (storageMachine settings).Run (InStep settings) first labels last := by
  obtain rfl := started
  have keyedFirst : Keyed settings ⟨⟨[], []⟩, [], []⟩ :=
    ⟨fun _ => nofun, fun _ => nofun, fun _ => nofun⟩
  have backedFirst : Backed ⟨⟨[], []⟩, [], []⟩ := ⟨fun _ => nofun, fun _ => nofun⟩
  have keeps : ∀ s label s', Keyed settings s → Machine.anyStep s label →
      (storageMachine settings).next s label = some s' → Keyed settings s' :=
    fun _ _ _ keyed _ taken => keyed_next keyed taken
  have agree : ∀ s label s', Keyed settings s ∧ Backed s →
      (storageMachine settings).next s label = some s' →
        ((Keyed settings s' ∧ Backed s') ↔ InStep settings s label) := by
    intro s label s' before taken
    rw [← backed_next before.1 before.2 taken]
    exact ⟨And.right, fun after => ⟨keyed_next before.1 taken, after⟩⟩
  have passes := run.passes_iff agree ⟨keyedFirst, backedFirst⟩
  rw [← passes]
  exact forall_congr' fun early => forall_congr' fun middle => forall_congr' fun _ =>
    forall_congr' fun front => ⟨fun after => ⟨front.preserves keeps keyedFirst, after⟩, And.right⟩

/-- Empty systems. -/
def emptyStorage : StorageWorld := ⟨⟨[], []⟩, [], []⟩

/-- Calls that all succeed. -/
def smoothStore : StoreCalls := ⟨.done, .done, .done, .done⟩

/-- A file that is stored and deleted without a failure has its object as long as it has its row. -/
theorem smooth_calls_backed : ∃ last,
    (storageMachine smallFiles).Run Machine.anyStep emptyStorage
        [.store owner 7 picture 0 smoothStore, .delete owner 7 ⟨.done, .done⟩] last ∧
      ∀ early middle,
        early <+: [.store owner 7 picture 0 smoothStore, .delete owner 7 ⟨.done, .done⟩] →
        (storageMachine smallFiles).Run Machine.anyStep emptyStorage early middle →
        Backed middle := by
  obtain ⟨w, last, stored, deleted⟩ : ∃ w last,
      (storageMachine smallFiles).next emptyStorage (.store owner 7 picture 0 smoothStore) =
        some w ∧
      (storageMachine smallFiles).next w (.delete owner 7 ⟨.done, .done⟩) = some last :=
    ⟨_, _, rfl, rfl⟩
  refine ⟨last, .cons trivial stored (.cons trivial deleted (.nil _)), ?_⟩
  exact (backed_iff rfl (.cons trivial stored (.cons trivial deleted (.nil _)))).mpr
    (.cons (.inr rfl) stored (.cons (.inr (.inr ⟨rfl, rfl⟩)) deleted (.nil _)))

/-- A delete whose commit fails has taken the object of the row that stays. -/
theorem failed_delete_loses_object : ∃ last,
    (storageMachine smallFiles).Run Machine.anyStep emptyStorage
        [.store owner 7 picture 0 smoothStore,
          .delete owner 7 ⟨.done, .failed false (.other .dbapiError)⟩] last ∧
      ¬Backed last := by
  obtain ⟨w, last, upload, stored, deleted, rows, objects⟩ : ∃ w last upload,
      (storageMachine smallFiles).next emptyStorage (.store owner 7 picture 0 smoothStore) =
        some w ∧
      (storageMachine smallFiles).next w
        (.delete owner 7 ⟨.done, .failed false (.other .dbapiError)⟩) = some last ∧
      last.systems.uploads = [upload] ∧ last.systems.objects = [] :=
    ⟨_, _, _, rfl, rfl, rfl, by decide +kernel⟩
  refine ⟨last, .cons trivial stored (.cons trivial deleted (.nil _)), fun backed => ?_⟩
  have inside := backed.rows upload (by rw [rows]; exact List.mem_singleton_self _)
  rw [objects] at inside
  cases inside

end MarketingOS.UploadService
