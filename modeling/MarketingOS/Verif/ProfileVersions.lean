import MarketingOS.Services.Intelligence.Service

/-!
# Profile versions

What a committed build leaves in the tables, what a resolution does, and the invariant that keeps
the versions of a client, its pointer and the statuses of its profiles in step. A build that fails
anywhere commits nothing.
-/
namespace MarketingOS.Intelligence

variable {tables : TextTables} {kit : Toolkit}

/-! ## What a build leaves -/

/-- The directive rows of a build before their conflicts are linked. -/
def createdRows (run : BuildRun) (synced : List SyncedSource) (reconciled : List Reconciled) :
    List ClientDirective := reconciled.mapIdx (newDirective run synced)

/-- The directive rows of a build. -/
def builtRows (run : BuildRun) (synced : List SyncedSource) (reconciled : List Reconciled) :
    List ClientDirective :=
  List.zipWith (link (createdRows run synced reconciled)) reconciled
    (createdRows run synced reconciled)

/-- What a build leaves: a new profile of the next version with its directives, the pointer on it,
and the profile that was live superseded. -/
structure Built (tables : TextTables) (run : BuildRun) (store store' : Store)
    (synced : List SyncedSource) : Prop where
  fresh : run.profileId ∉ store.profiles.map ClientProfile.id
  apart : ((store.directives ++ createdRows run synced (gated tables store run)).map
    ClientDirective.id).Nodup
  current : ∀ client, store'.current client =
    if client = run.clientId then some (nextVersion store.profiles run.clientId)
    else store.current client
  profiles : store'.profiles = supersedePrevious
    { store with
      profiles := store.profiles ++ [newProfile run (nextVersion store.profiles run.clientId)
        (gated tables store run) synced] }
    run.clientId run.profileId
  directives : store'.directives =
    store.directives ++ builtRows run synced (gated tables store run)

/-- A committed build leaves what the stages say together. -/
theorem built_of_next {store store' : Store} {run : BuildRun}
    (taken : (machine tables kit).next store (.build run) = some store') :
    ∃ synced, Built tables run store store' synced := by
  obtain ⟨d, staged, rfl⟩ := Option.map_eq_some_iff.mp taken
  simp only [transactions, buildStages, Transaction.runStages, ingestStage, embedStage, agentStage,
    Option.bind_some, Draft.start] at staged
  obtain ⟨profiled, insertedProfile, staged⟩ := Option.bind_eq_some_iff.mp staged
  obtain ⟨ruled, insertedRows, staged⟩ := Option.bind_eq_some_iff.mp staged
  unfold profileStage at insertedProfile
  dsimp only at insertedProfile
  split at insertedProfile
  · cases insertedProfile
  · next free =>
    obtain rfl := Option.some.inj insertedProfile
    unfold directivesStage at insertedRows
    dsimp only at insertedRows
    split at insertedRows
    · next apart =>
      obtain rfl := Option.some.inj insertedRows
      obtain rfl := Option.some.inj staged
      refine ⟨_, ?_, apart, fun _ => rfl, rfl, ?_⟩
      · intro known
        exact free (.inl (Table.has_iff_mem.mpr known))
      · show List.take _ _ ++ _ = _
        rw [List.length_append, Nat.add_sub_cancel, List.take_left]
        rfl
    · cases insertedRows

/-- A directive row of a build, and the reconciled directive it stores. -/
structure RowOf (run : BuildRun) (r : Reconciled) (row : ClientDirective) : Prop where
  profileId : row.profileId = run.profileId
  clientId : row.clientId = run.clientId
  type : row.type = r.directive.type
  category : row.category = r.directive.category
  text : row.text = r.directive.text
  status : row.status = r.status
  flags : ClientDirective.flags row = r.directive.capabilityFlags

/-- A row stores the flags of its directive. -/
theorem flags_newDirective (run : BuildRun) (synced : List SyncedSource) (position : Nat)
    (r : Reconciled) :
    ClientDirective.flags (newDirective run synced position r) = r.directive.capabilityFlags := by
  show Option.getD (if r.directive.capabilityFlags.entries = [] then none else
    some r.directive.capabilityFlags) .empty = _
  generalize r.directive.capabilityFlags = flags
  obtain ⟨entries, distinct⟩ := flags
  cases entries with
  | nil => rfl
  | cons entry rest => rfl

/-- Linking a conflict changes nothing else. -/
theorem rowOf_link {run : BuildRun} {r : Reconciled} {row : ClientDirective}
    (created : List ClientDirective) (stores : RowOf run r row) :
    RowOf run r (link created r row) := by
  unfold link
  split
  · exact stores
  · exact ⟨stores.profileId, stores.clientId, stores.type, stores.category, stores.text,
      stores.status, stores.flags⟩

/-- Linking a conflict keeps the identifier. -/
theorem id_link (created : List ClientDirective) (r : Reconciled) (row : ClientDirective) :
    (link created r row).id = row.id := by
  unfold link
  split
  · rfl
  · rfl

variable (run : BuildRun) (synced : List SyncedSource) {reconciled : List Reconciled}

/-- The rows of a build, position by position. -/
theorem getElem?_builtRows (j : Nat) : (builtRows run synced reconciled)[j]? =
    reconciled[j]?.map fun r =>
      link (createdRows run synced reconciled) r (newDirective run synced j r) := by
  rw [builtRows, List.getElem?_zipWith, createdRows, List.getElem?_mapIdx]
  cases reconciled[j]? with
  | none => rfl
  | some r => rfl

variable {run synced}

/-- Every row of a build stores a reconciled directive. -/
theorem rowOf_of_mem {row : ClientDirective} (inside : row ∈ builtRows run synced reconciled) :
    ∃ r ∈ reconciled, RowOf run r row := by
  obtain ⟨j, place⟩ := List.getElem?_of_mem inside
  rw [getElem?_builtRows] at place
  obtain ⟨r, found, rfl⟩ := Option.map_eq_some_iff.mp place
  have stores : RowOf run r (newDirective run synced j r) :=
    ⟨rfl, rfl, rfl, rfl, rfl, rfl, flags_newDirective run synced j r⟩
  exact ⟨r, List.mem_of_getElem? found, rowOf_link _ stores⟩

/-- Every reconciled directive has a row. -/
theorem exists_rowOf (run : BuildRun) (synced : List SyncedSource) {r : Reconciled}
    (inside : r ∈ reconciled) :
    ∃ row ∈ builtRows run synced reconciled, RowOf run r row := by
  obtain ⟨j, found⟩ := List.getElem?_of_mem inside
  have stores : RowOf run r (newDirective run synced j r) :=
    ⟨rfl, rfl, rfl, rfl, rfl, rfl, flags_newDirective run synced j r⟩
  have place : (builtRows run synced reconciled)[j]? = _ := getElem?_builtRows run synced j
  rw [found, Option.map_some] at place
  exact ⟨_, List.mem_of_getElem? place, rowOf_link _ stores⟩

/-- The rows of a build keep the identifiers they were inserted with. -/
theorem ids_builtRows : (builtRows run synced reconciled).map ClientDirective.id =
    (createdRows run synced reconciled).map ClientDirective.id := by
  apply List.ext_getElem?
  intro j
  rw [List.getElem?_map, getElem?_builtRows, List.getElem?_map, createdRows, List.getElem?_mapIdx,
    Option.map_map, Option.map_map]
  congr 1
  funext r
  exact id_link _ _ _

/-- A conflict of a row of a build is a row of the same build. -/
theorem conflict_builtRows {row : ClientDirective} {id : Uuid}
    (inside : row ∈ builtRows run synced reconciled) (linked : row.conflictsWithId = some id) :
    id ∈ (builtRows run synced reconciled).map ClientDirective.id := by
  obtain ⟨j, place⟩ := List.getElem?_of_mem inside
  rw [getElem?_builtRows] at place
  obtain ⟨r, -, rfl⟩ := Option.map_eq_some_iff.mp place
  unfold link at linked
  split at linked
  · cases linked
  · obtain ⟨other, found, rfl⟩ := Option.map_eq_some_iff.mp linked
    rw [ids_builtRows]
    exact List.mem_map_of_mem (List.mem_of_getElem? found)

/-! ## Versions of a client -/

/-- The versions of a client, oldest row first. -/
def versionsOf (profiles : List ClientProfile) (client : Uuid) : List Nat :=
  ((profiles.map fun p => (p.clientId, p.version)).filter fun entry =>
    entry.1 = client).map Prod.snd

/-- A profile's version is one of its client's. -/
theorem mem_versionsOf {profiles : List ClientProfile} {client : Uuid} {version : Nat} :
    version ∈ versionsOf profiles client ↔
      ∃ p ∈ profiles, p.clientId = client ∧ p.version = version := by
  simp only [versionsOf, List.filter_map, List.map_map, List.mem_map, List.mem_filter,
    Function.comp, decide_eq_true_eq, and_assoc]

/-- The versions of a client after one more profile. -/
theorem versionsOf_concat (profiles : List ClientProfile) (new : ClientProfile) (client : Uuid) :
    versionsOf (profiles ++ [new]) client =
      if new.clientId = client then versionsOf profiles client ++ [new.version]
      else versionsOf profiles client := by
  unfold versionsOf
  rw [List.map_append, List.filter_append, List.map_append, List.map_singleton]
  split
  · next same => simp [same]
  · next other => simp [other]

/-- The next version comes after the versions there are. -/
theorem nextVersion_eq {profiles : List ClientProfile} {client : Uuid}
    (counted : versionsOf profiles client =
      List.range' 1 (versionsOf profiles client).length) :
    nextVersion profiles client = (versionsOf profiles client).length + 1 := by
  have read : (profiles.filter fun p => p.clientId = client).map ClientProfile.version =
      versionsOf profiles client := by
    rw [versionsOf, List.filter_map, List.map_map]
    rfl
  have highest : ∀ n, (List.range' 1 n).foldl max 0 = n := by
    intro n
    induction n with
    | zero => rfl
    | succ n ih =>
      rw [List.range'_1_concat, List.foldl_append, ih, List.foldl_cons, List.foldl_nil]
      omega
  rw [nextVersion, read, counted, highest, List.length_range']

/-! ## The invariant -/

/-- The versions of every client are counted up from one, its pointer is on the last of them, and
the profile it points at is the only one that is ready; every directive belongs to a profile of its
client, and conflicts with a directive of the same profile. -/
structure Versioned (store : Store) : Prop where
  ids : (store.profiles.map ClientProfile.id).Nodup
  counted : ∀ client, versionsOf store.profiles client =
    List.range' 1 (versionsOf store.profiles client).length
  pointer : ∀ client, store.current client = (versionsOf store.profiles client).getLast?
  ready : ∀ p ∈ store.profiles,
    p.status = .ready ↔ store.current p.clientId = some p.version
  directiveIds : (store.directives.map ClientDirective.id).Nodup
  owners : ∀ d ∈ store.directives, ∃ p ∈ store.profiles,
    p.id = d.profileId ∧ p.clientId = d.clientId
  conflicts : ∀ d ∈ store.directives, ∀ id, d.conflictsWithId = some id →
    ∃ other ∈ store.directives, other.id = id ∧ other.profileId = d.profileId

/-- Nothing is wrong with empty tables. -/
theorem Versioned.blank {store : Store} (blank : store.Blank) : Versioned store := by
  obtain ⟨current, profiles, directives, sources⟩ := blank
  refine ⟨?_, ?_, ?_, ?_, ?_, ?_, ?_⟩
  · rw [profiles]
    exact List.nodup_nil
  · intro client
    rw [profiles]
    rfl
  · intro client
    rw [current, profiles]
    rfl
  · rw [profiles]
    exact fun p inside => absurd inside List.not_mem_nil
  · rw [directives]
    exact List.nodup_nil
  · rw [directives]
    exact fun d inside => absurd inside List.not_mem_nil
  · rw [directives]
    exact fun d inside => absurd inside List.not_mem_nil

variable {store store' : Store}

/-- The profiles of a client have different versions. -/
theorem Versioned.eq_of_version (versioned : Versioned store) {p q : ClientProfile}
    (left : p ∈ store.profiles) (right : q ∈ store.profiles) (client : p.clientId = q.clientId)
    (version : p.version = q.version) : p = q := by
  have nodup : (versionsOf store.profiles q.clientId).Nodup := by
    rw [versioned.counted]
    exact List.nodup_range'
  rw [versionsOf, List.filter_map, List.map_map] at nodup
  apply List.inj_on_of_nodup_map nodup
  · exact List.mem_filter.mpr ⟨left, by simpa using client⟩
  · exact List.mem_filter.mpr ⟨right, by simp⟩
  · exact version

/-- The live profile of a client is the one with the version the pointer names. -/
theorem Versioned.liveProfile_iff (versioned : Versioned store) {client : Uuid}
    {p : ClientProfile} : liveProfile store client = some p ↔
      p ∈ store.profiles ∧ p.clientId = client ∧ store.current client = some p.version := by
  rw [liveProfile, Option.bind_eq_some_iff]
  constructor
  · rintro ⟨version, pointer, found⟩
    have ⟨owner, same⟩ : p.clientId = client ∧ p.version = version := by
      simpa using List.find?_some found
    exact ⟨List.mem_of_find?_eq_some found, owner, same ▸ pointer⟩
  · rintro ⟨inside, owner, pointer⟩
    refine ⟨p.version, pointer, ?_⟩
    have present : (getVersion store.profiles client p.version).isSome := by
      rw [getVersion, List.find?_isSome]
      exact ⟨p, inside, by simp [owner]⟩
    obtain ⟨q, found⟩ := Option.isSome_iff_exists.mp present
    have ⟨owner', same⟩ : q.clientId = client ∧ q.version = p.version := by
      simpa using List.find?_some found
    rw [found, versioned.eq_of_version (List.mem_of_find?_eq_some found) inside
      (owner'.trans owner.symm) same]

/-- A version the pointer names exists. -/
theorem Versioned.exists_live (versioned : Versioned store) {client : Uuid} {version : Nat}
    (pointer : store.current client = some version) :
    ∃ p, liveProfile store client = some p := by
  have last := versioned.pointer client
  rw [pointer] at last
  obtain ⟨p, inside, owner, rfl⟩ := mem_versionsOf.mp (List.mem_of_getLast? last.symm)
  exact ⟨p, versioned.liveProfile_iff.mpr ⟨inside, owner, pointer⟩⟩

/-- A profile's version is at most the number of its client's versions. -/
theorem Versioned.version_le (versioned : Versioned store) {p : ClientProfile}
    (inside : p ∈ store.profiles) :
    p.version ≤ (versionsOf store.profiles p.clientId).length := by
  have listed : p.version ∈ versionsOf store.profiles p.clientId :=
    mem_versionsOf.mpr ⟨p, inside, rfl, rfl⟩
  rw [versioned.counted, List.mem_range'_1] at listed
  omega

/-! ## One build -/

/-- Superseding changes a status only. -/
theorem map_supersedePrevious {β : Type} (column : ClientProfile → β)
    (keeps : ∀ p status, column { p with status } = column p) (store : Store) (client id : Uuid) :
    (supersedePrevious store client id).map column = store.profiles.map column := by
  unfold supersedePrevious
  split
  · rfl
  · split
    · exact Table.map_modify _ column fun p _ => keeps p .superseded
    · rfl

/-- A profile after the live one was superseded: the live one, or one as it was. -/
theorem Versioned.mem_supersedePrevious (versioned : Versioned store) {client id : Uuid}
    (fresh : id ∉ store.profiles.map ClientProfile.id) {p : ClientProfile}
    (inside : p ∈ supersedePrevious store client id) :
    (p ∈ store.profiles ∧ ¬(p.clientId = client ∧ store.current client = some p.version)) ∨
      ∃ q ∈ store.profiles, q.clientId = client ∧ p = { q with status := .superseded } := by
  unfold supersedePrevious at inside
  split at inside
  · next none =>
    refine .inl ⟨inside, fun ⟨owner, pointer⟩ => ?_⟩
    rw [versioned.liveProfile_iff.mpr ⟨inside, owner, pointer⟩] at none
    cases none
  · next prev live =>
    have ⟨listed, owner, pointer⟩ := versioned.liveProfile_iff.mp live
    have apart : prev.id ≠ id := by
      rintro rfl
      exact fresh (List.mem_map_of_mem listed)
    rw [if_pos apart] at inside
    rcases Table.mem_modify.mp inside with ⟨old, other⟩ | ⟨q, old, same, rfl⟩
    · refine .inl ⟨old, fun ⟨owner', pointer'⟩ => other ?_⟩
      rw [versioned.liveProfile_iff.mpr ⟨old, owner', pointer'⟩] at live
      rw [Option.some.inj live]
    · have this := List.inj_on_of_nodup_map versioned.ids old listed same
      exact .inr ⟨q, old, this ▸ owner, rfl⟩

variable {synced : List SyncedSource}

/-- A build appends its profile to the others, the live one of them superseded. -/
theorem Built.profiles_eq (built : Built tables run store store' synced)
    (versioned : Versioned store) : store'.profiles =
      supersedePrevious store run.clientId run.profileId ++
        [newProfile run (nextVersion store.profiles run.clientId) (gated tables store run)
          synced] := by
  rw [built.profiles, supersedePrevious, supersedePrevious]
  cases live : liveProfile store run.clientId with
  | none =>
    have unset : store.current run.clientId = none := by
      cases pointer : store.current run.clientId with
      | none => rfl
      | some version =>
        obtain ⟨p, found⟩ := versioned.exists_live pointer
        rw [found] at live
        cases live
    simp only [liveProfile, unset, Option.bind_none]
  | some prev =>
    have ⟨listed, owner, pointer⟩ := versioned.liveProfile_iff.mp live
    have apart : prev.id ≠ run.profileId := by
      intro same
      exact built.fresh (same ▸ List.mem_map_of_mem listed)
    have still : liveProfile { store with
        profiles := store.profiles ++ [newProfile run (nextVersion store.profiles run.clientId)
          (gated tables store run) synced] } run.clientId = some prev := by
      rw [liveProfile, pointer, Option.bind_some] at live ⊢
      rw [getVersion, List.find?_append]
      rw [getVersion] at live
      rw [live]
      rfl
    rw [still]
    dsimp only
    rw [if_pos apart, if_pos apart, Table.modify_append]
    congr 1
    exact Table.modify_of_absent (by simpa [newProfile] using apart)

/-- The versions of every client after a build. -/
theorem Built.versionsOf_eq (built : Built tables run store store' synced)
    (versioned : Versioned store) (client : Uuid) : versionsOf store'.profiles client =
      if run.clientId = client then
        versionsOf store.profiles client ++ [(versionsOf store.profiles client).length + 1]
      else versionsOf store.profiles client := by
  have kept : versionsOf (supersedePrevious store run.clientId run.profileId) client =
      versionsOf store.profiles client := by
    rw [versionsOf, map_supersedePrevious (fun p => (p.clientId, p.version)) fun _ _ => rfl,
      versionsOf]
  rw [built.profiles_eq versioned, versionsOf_concat, kept]
  show (if run.clientId = client then versionsOf store.profiles client ++
    [nextVersion store.profiles run.clientId] else _) = _
  split
  · next same => rw [same, nextVersion_eq (versioned.counted client)]
  · rfl

/-- The directives of the profile a build inserted are those it inserted. -/
theorem Built.mem_rows (built : Built tables run store store' synced)
    (versioned : Versioned store) {d : ClientDirective} :
    (d ∈ store'.directives ∧ d.profileId = run.profileId) ↔
      d ∈ builtRows run synced (gated tables store run) := by
  rw [built.directives, List.mem_append]
  constructor
  · rintro ⟨before | new, profile⟩
    · obtain ⟨p, listed, same, -⟩ := versioned.owners d before
      have clash : p.id = run.profileId := same.trans profile
      exact absurd (clash ▸ List.mem_map_of_mem listed) built.fresh
    · exact new
  · intro new
    obtain ⟨r, -, stores⟩ := rowOf_of_mem new
    exact ⟨.inr new, stores.profileId⟩

/-- A row of the profile a build inserted stores a directive that passed the gate. -/
theorem Built.gated_of_row (built : Built tables run store store' synced)
    (versioned : Versioned store) {d : ClientDirective} (listed : d ∈ store'.directives)
    (profile : d.profileId = run.profileId) : ∃ r ∈ gated tables store run, RowOf run r d :=
  rowOf_of_mem ((built.mem_rows versioned).mp ⟨listed, profile⟩)

/-- A directive that passed the gate is stored in a row of the profile a build inserted. -/
theorem Built.row_of_gated (built : Built tables run store store' synced)
    (versioned : Versioned store) {r : Reconciled} (inside : r ∈ gated tables store run) :
    ∃ d ∈ store'.directives, d.profileId = run.profileId ∧ RowOf run r d := by
  obtain ⟨d, member, stores⟩ := exists_rowOf run synced inside
  obtain ⟨listed, profile⟩ := (built.mem_rows versioned).mpr member
  exact ⟨d, listed, profile, stores⟩

/-- The next version of a client is above the version of each of its profiles. -/
theorem Versioned.version_lt_next (versioned : Versioned store) {p : ClientProfile}
    (inside : p ∈ store.profiles) : p.version < nextVersion store.profiles p.clientId := by
  have bound := versioned.version_le inside
  rw [nextVersion_eq (versioned.counted p.clientId)]
  omega

/-- After a build the ready profiles are those the pointers name. -/
theorem Versioned.ready_built (versioned : Versioned store)
    (built : Built tables run store store' synced) {p : ClientProfile}
    (inside : p ∈ store'.profiles) :
    p.status = .ready ↔ store'.current p.clientId = some p.version := by
  rw [built.profiles_eq versioned, List.mem_append, List.mem_singleton] at inside
  rw [built.current]
  rcases inside with old | rfl
  · rcases versioned.mem_supersedePrevious built.fresh old with ⟨listed, other⟩ | retired
    · by_cases owner : p.clientId = run.clientId
      · -- the new version is above every old one, and no old one was the live one
        have behind := versioned.version_lt_next listed
        have silent : p.status ≠ .ready := fun isReady =>
          other ⟨owner, owner ▸ (versioned.ready p listed).mp isReady⟩
        rw [owner] at behind
        rw [if_pos owner]
        exact ⟨fun isReady => absurd isReady silent,
          fun same => absurd (Option.some.inj same).symm behind.ne⟩
      · rw [if_neg owner]
        exact versioned.ready p listed
    · obtain ⟨q, listed, owner, rfl⟩ := retired
      have behind := versioned.version_lt_next listed
      rw [owner] at behind
      dsimp only
      rw [if_pos owner]
      constructor
      · intro isReady
        cases isReady
      · exact fun same => absurd (Option.some.inj same).symm behind.ne
  · show ProfileStatus.ready = .ready ↔ (if run.clientId = run.clientId then _ else _) =
      some (nextVersion store.profiles run.clientId)
    rw [if_pos rfl]
    exact ⟨fun _ => rfl, fun _ => rfl⟩

/-- After a build every directive belongs to a profile of its client. -/
theorem Versioned.owners_built (versioned : Versioned store)
    (built : Built tables run store store' synced) {d : ClientDirective}
    (inside : d ∈ store'.directives) :
    ∃ p ∈ store'.profiles, p.id = d.profileId ∧ p.clientId = d.clientId := by
  rw [built.directives, List.mem_append] at inside
  rw [built.profiles_eq versioned]
  rcases inside with old | new
  · obtain ⟨p, listed, same, owner⟩ := versioned.owners d old
    have column : (p.id, p.clientId) ∈ (supersedePrevious store run.clientId run.profileId).map
        fun p => (p.id, p.clientId) := by
      rw [map_supersedePrevious (fun p => (p.id, p.clientId)) fun _ _ => rfl]
      exact List.mem_map_of_mem listed
    obtain ⟨p', kept, columns⟩ := List.mem_map.mp column
    obtain ⟨id, client⟩ := Prod.mk.inj columns
    exact ⟨p', List.mem_append_left _ kept, id.trans same, client.trans owner⟩
  · obtain ⟨r, -, stores⟩ := rowOf_of_mem new
    refine ⟨_, List.mem_append_right _ (List.mem_singleton_self _), ?_, ?_⟩
    · exact stores.profileId.symm
    · exact stores.clientId.symm

/-- After a build every conflict names a directive of the same profile. -/
theorem Versioned.conflicts_built (versioned : Versioned store)
    (built : Built tables run store store' synced) {d : ClientDirective}
    (inside : d ∈ store'.directives) {id : Uuid} (linked : d.conflictsWithId = some id) :
    ∃ other ∈ store'.directives, other.id = id ∧ other.profileId = d.profileId := by
  rw [built.directives, List.mem_append] at inside
  rw [built.directives]
  rcases inside with old | new
  · obtain ⟨other, listed, same, profile⟩ := versioned.conflicts d old id linked
    exact ⟨other, List.mem_append_left _ listed, same, profile⟩
  · obtain ⟨other, listed, same⟩ := List.mem_map.mp (conflict_builtRows new linked)
    obtain ⟨r, -, stores⟩ := rowOf_of_mem new
    obtain ⟨r', -, stores'⟩ := rowOf_of_mem listed
    exact ⟨other, List.mem_append_right _ listed, same,
      stores'.profileId.trans stores.profileId.symm⟩

/-- A build keeps the invariant. -/
theorem Versioned.built (versioned : Versioned store)
    (built : Built tables run store store' synced) : Versioned store' := by
  refine ⟨?_, ?_, ?_, ?_, ?_, ?_, ?_⟩
  · rw [built.profiles_eq versioned, List.map_append,
      map_supersedePrevious ClientProfile.id fun _ _ => rfl]
    apply List.Nodup.append versioned.ids (List.nodup_singleton _)
    exact List.disjoint_singleton.mpr built.fresh
  · intro client
    rw [built.versionsOf_eq versioned]
    split
    · rw [List.length_append, List.length_singleton, List.range'_1_concat,
        ← versioned.counted client, Nat.add_comm 1]
    · exact versioned.counted client
  · intro client
    rw [built.current, built.versionsOf_eq versioned]
    by_cases same : run.clientId = client
    · rw [if_pos same, if_pos same.symm, List.getLast?_concat,
        nextVersion_eq (versioned.counted run.clientId), same]
    · rw [if_neg same, if_neg (Ne.symm same)]
      exact versioned.pointer client
  · exact fun p inside => versioned.ready_built built inside
  · rw [built.directives, List.map_append, ids_builtRows, ← List.map_append]
    exact built.apart
  · exact fun d inside => versioned.owners_built built inside
  · exact fun d inside id linked => versioned.conflicts_built built inside linked

/-! ## One resolution -/

/-- What a resolution leaves: one directive with its new status, and its profile with the flags of
the directives that are active then. -/
structure Resolved (client id : Uuid) (activate : Bool) (store store' : Store)
    (directive : ClientDirective) : Prop where
  found : getOwned store.directives client id = some directive
  inside : directive ∈ store.directives
  named : directive.id = id
  owned : directive.clientId = client
  current : store'.current = store.current
  directives : store'.directives =
    Table.modify ClientDirective.id id (ClientDirective.resolved activate) store.directives
  profiles : store'.profiles = Table.modify ClientProfile.id directive.profileId
    (fun p => { p with capabilityFlags := recomputedFlags store'.directives directive.profileId })
    store.profiles
  sources : store'.sources = store.sources

/-- A committed resolution is one of a directive of the client. -/
theorem resolved_of_next {client id : Uuid} {activate : Bool}
    (taken : (machine tables kit).next store (.resolve client id activate) = some store') :
    ∃ directive, Resolved client id activate store store' directive := by
  obtain ⟨d, staged, rfl⟩ := Option.map_eq_some_iff.mp taken
  obtain ⟨d', moved, done⟩ := Option.bind_eq_some_iff.mp staged
  obtain rfl := Option.some.inj done
  obtain ⟨after, resolution, rfl⟩ := Option.map_eq_some_iff.mp moved
  obtain ⟨directive, owned, rfl⟩ := Option.map_eq_some_iff.mp resolution
  have ⟨named, owner⟩ : directive.id = id ∧ directive.clientId = client := by
    simpa using List.find?_some owned
  refine ⟨directive, owned, List.mem_of_find?_eq_some owned, named, owner, rfl, ?_, rfl, rfl⟩
  rw [← named]
  rfl

/-- The invariant is about some of the columns only. -/
theorem Versioned.congr (versioned : Versioned store)
    (profiles : store'.profiles.map (fun p => (p.id, p.clientId, p.version, p.status)) =
      store.profiles.map fun p => (p.id, p.clientId, p.version, p.status))
    (directives : store'.directives.map
        (fun d => (d.id, d.profileId, d.clientId, d.conflictsWithId)) =
      store.directives.map fun d => (d.id, d.profileId, d.clientId, d.conflictsWithId))
    (current : store'.current = store.current) : Versioned store' := by
  have ids := Table.map_of_map_eq (fun columns => columns.1) profiles
  have directiveIds := Table.map_of_map_eq (fun columns => columns.1) directives
  have pairs := Table.map_of_map_eq (fun columns => (columns.2.1, columns.2.2.1)) profiles
  have versions : ∀ client,
      versionsOf store'.profiles client = versionsOf store.profiles client := by
    intro client
    unfold versionsOf
    rw [pairs]
  refine ⟨?_, ?_, ?_, ?_, ?_, ?_, ?_⟩
  · exact ids ▸ versioned.ids
  · intro client
    rw [versions]
    exact versioned.counted client
  · intro client
    rw [versions, current]
    exact versioned.pointer client
  · intro p inside
    obtain ⟨p', listed, same⟩ := Table.exists_of_map_eq profiles inside
    simp only [Prod.mk.injEq] at same
    have before := versioned.ready p' listed
    rw [same.2.1, same.2.2.1, same.2.2.2] at before
    rw [current]
    exact before
  · exact directiveIds ▸ versioned.directiveIds
  · intro d inside
    obtain ⟨d', listed, same⟩ := Table.exists_of_map_eq directives inside
    simp only [Prod.mk.injEq] at same
    obtain ⟨p, member, id, owner⟩ := versioned.owners d' listed
    obtain ⟨p', member', columns⟩ := Table.exists_of_map_eq profiles.symm member
    simp only [Prod.mk.injEq] at columns
    refine ⟨p', member', ?_, ?_⟩
    · rw [columns.1, id, same.2.1]
    · rw [columns.2.1, owner, same.2.2.1]
  · intro d inside id linked
    obtain ⟨d', listed, same⟩ := Table.exists_of_map_eq directives inside
    simp only [Prod.mk.injEq] at same
    obtain ⟨other, member, named, profile⟩ :=
      versioned.conflicts d' listed id (same.2.2.2.trans linked)
    obtain ⟨other', member', columns⟩ := Table.exists_of_map_eq directives.symm member
    simp only [Prod.mk.injEq] at columns
    refine ⟨other', member', ?_, ?_⟩
    · rw [columns.1, named]
    · rw [columns.2.1, profile, same.2.1]

/-- A resolution keeps the invariant. -/
theorem Versioned.resolved {client id : Uuid} {activate : Bool} {directive : ClientDirective}
    (versioned : Versioned store) (resolved : Resolved client id activate store store' directive) :
    Versioned store' := by
  apply versioned.congr
  · rw [resolved.profiles]
    exact Table.map_modify _ _ fun _ _ => rfl
  · rw [resolved.directives]
    exact Table.map_modify _ _ fun _ _ => rfl
  · exact resolved.current

/-! ## Every history -/

/-- The invariant holds after every sequence of builds and resolutions. -/
theorem versioned_of_reachable (reached : (machine tables kit).Reachable Machine.anyStep store) :
    Versioned store := by
  apply reached.invariant Versioned
  · exact fun store blank => .blank blank
  · intro store label store' versioned _ taken
    cases label with
    | build run =>
      obtain ⟨synced, built⟩ := built_of_next taken
      exact versioned.built built
    | resolve client id activate =>
      obtain ⟨directive, resolved⟩ := resolved_of_next taken
      exact versioned.resolved resolved

/-- The last of numbers counted up from one is the greatest. -/
theorem Versioned.le_of_pointer (versioned : Versioned store) {client : Uuid} {version : Nat}
    (pointer : store.current client = some version) {q : ClientProfile}
    (inside : q ∈ store.profiles)
    (owner : q.clientId = client) : q.version ≤ version := by
  have bound := versioned.version_le inside
  have last := versioned.pointer client
  rw [pointer, versioned.counted, List.getLast?_range'] at last
  rw [owner] at bound
  split at last
  · cases last
  · have same := Option.some.inj last
    omega

/-- In every state of every sequence of builds and resolutions, each of which may fail at any stage:
the versions of a client count up from one; the pointer of a client names its only ready profile,
which has the highest version; a directive conflicts with one of its own profile; and a step
commits nothing unless it ends a build or a resolution whose stages all succeeded. -/
theorem profile_versions {s : Transaction.Session Store Draft}
    (reached : (sessions tables kit).Reachable Machine.anyStep s) :
    (∀ client, versionsOf s.committed.profiles client =
      List.range' 1 (versionsOf s.committed.profiles client).length) ∧
    (∀ client version, s.committed.current client = some version →
      ∃ p ∈ s.committed.profiles, p.clientId = client ∧ p.version = version ∧ p.status = .ready ∧
        ∀ q ∈ s.committed.profiles, q.clientId = client →
          (q.status = .ready → q = p) ∧ q.version ≤ version) ∧
    (∀ d ∈ s.committed.directives, ∀ id, d.conflictsWithId = some id →
      ∃ other ∈ s.committed.directives, other.id = id ∧ other.profileId = d.profileId) ∧
    ∀ move s', (sessions tables kit).next s move = some s' →
      s'.committed = s.committed ∨
        move = .advance ∧ (∃ d, s.running = some ([], d)) ∧
          ∃ label, (machine tables kit).next s.committed label = some s'.committed := by
  have versioned : Versioned s.committed :=
    Transaction.committed_invariant (fun _ => versioned_of_reachable) reached
  refine ⟨versioned.counted, ?_, versioned.conflicts, ?_⟩
  · intro client version pointer
    obtain ⟨p, live⟩ := versioned.exists_live pointer
    have ⟨inside, owner, named⟩ := versioned.liveProfile_iff.mp live
    have version : p.version = version := Option.some.inj (named.symm.trans pointer)
    refine ⟨p, inside, owner, version, (versioned.ready p inside).mpr (owner ▸ named), ?_⟩
    intro q listed owner'
    refine ⟨fun isReady => ?_, versioned.le_of_pointer pointer listed owner'⟩
    have named' := (versioned.ready q listed).mp isReady
    rw [owner', named] at named'
    exact versioned.eq_of_version listed inside (owner'.trans owner.symm)
      (Option.some.inj named').symm
  · intro move s' taken
    exact Transaction.committed_step reached taken

/-- A full build of client 1, about whom nothing is known, with the directives its agent returns.
The rows it inserts are numbered from the number of its profile. -/
def plainBuild (number : Nat) (extracted : List Directive) : BuildRun where
  inputs := .bare 1
  full := true
  reachable _ := true
  newId _ := 0
  summary := ⟨none, none, none⟩
  extracted := extracted
  profileId := .ofNat 128 number
  directiveId position := .ofNat 128 (number + position)
  createdBy := none
  now := 0

/-- Empty tables. -/
def Store.empty : Store := ⟨fun _ => none, [], [], []⟩

/-- A build commits, the next one fails after its profile was inserted: version 1 stays live. -/
theorem profile_versions_failed_rebuild :
    ∃ s, s.running = none ∧ s.committed.current 1 = some 1 ∧
      (sessions .ascii .plain).Reachable Machine.anyStep s ∧
      ∃ p ∈ s.committed.profiles, p.clientId = 1 ∧ p.version = 1 ∧ p.status = .ready ∧
        ∀ q ∈ s.committed.profiles, q.clientId = 1 →
          (q.status = .ready → q = p) ∧ q.version ≤ 1 := by
  obtain ⟨s, played, idle, pointer⟩ : ∃ s, (sessions .ascii .plain).play Machine.anyStep
      ⟨.empty, none⟩
      ([.begin (.build (plainBuild 10 []))] ++ List.replicate 8 .advance ++
        [.begin (.build (plainBuild 20 []))] ++ List.replicate 4 .advance ++ [.fail]) = some s ∧
      s.running = none ∧ s.committed.current 1 = some 1 := by
    refine ⟨_, rfl, ?_, ?_⟩
    · rfl
    · decide +kernel
  have reached : (sessions .ascii .plain).Reachable Machine.anyStep s :=
    ⟨_, _, ⟨⟨fun _ => rfl, rfl, rfl, rfl⟩, rfl⟩, Machine.run_of_play played⟩
  exact ⟨s, idle, pointer, reached, (profile_versions reached).2.1 1 1 pointer⟩

end MarketingOS.Intelligence
