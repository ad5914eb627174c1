import MarketingOS.Verif.Reconciliation
import MarketingOS.Verif.StoredFlags

/-!
# The review gate over rebuilds

An approval is carried from the live profile to the next one by the key of a directive. Conflicts
are marked before the gate looks at anything, so a prohibition the gate then holds back has already
switched off the rule it opposes; and the key says nothing of the flags a directive sets.
-/
namespace MarketingOS.Intelligence

variable {tables : TextTables} {kit : Toolkit} {store store' : Store} {run : BuildRun}
  {synced : List SyncedSource}

/-! ## Approved keys -/

/-- A key is approved when a directive under it is active on the live profile. -/
theorem mem_approvedDirectiveKeys {client : Uuid} {key : DirectiveKey} :
    key ∈ approvedDirectiveKeys tables store client ↔
      ∃ live d, liveProfile store client = some live ∧ ActiveOn store live.id d ∧
        ClientDirective.key tables d = key := by
  unfold approvedDirectiveKeys
  split
  · next none =>
    constructor
    · intro inside
      exact absurd inside List.not_mem_nil
    · rintro ⟨live, d, found, -⟩
      rw [none] at found
      cases found
  · next live found =>
    simp only [List.mem_map, List.mem_filter, activeForProfile, StableSort.mem_sortBy,
      decide_eq_true_eq]
    constructor
    · rintro ⟨d, ⟨⟨listed, profile⟩, active⟩, rfl⟩
      exact ⟨live, d, found, ⟨listed, profile, active⟩, rfl⟩
    · rintro ⟨other, d, found', on, rfl⟩
      obtain rfl := Option.some.inj (found.symm.trans found')
      exact ⟨d, ⟨⟨on.listed, on.profile⟩, on.active⟩, rfl⟩

/-- The live profile after a build is the one it inserted. -/
theorem Built.liveProfile_eq (built : Built tables run store store' synced)
    (versioned : Versioned store) : liveProfile store' run.clientId =
      some (newProfile run (nextVersion store.profiles run.clientId) (gated tables store run)
        synced) := by
  rw [(versioned.built built).liveProfile_iff]
  refine ⟨?_, rfl, ?_⟩
  · rw [built.profiles_eq versioned]
    exact List.mem_append_right _ (List.mem_singleton_self _)
  · rw [built.current, if_pos rfl]
    rfl

/-- What passes the gate, in some status, is what is kept. -/
theorem exists_gated_iff_kept {d : Directive} :
    (∃ r ∈ gated tables store run, r.directive = d) ↔ d ∈ dedupe tables [] run.extracted := by
  rw [← directives_reconcile, ← directives_gate (approvedDirectiveKeys tables store run.clientId),
    List.mem_map]
  rfl

/-- The key of a row is that of the directive it stores. -/
theorem RowOf.key_eq {r : Reconciled} {row : ClientDirective} (stores : RowOf run r row) :
    ClientDirective.key tables row = r.directive.key tables := by
  rw [ClientDirective.key, Directive.key, stores.type, stores.text]

/-! ## Approved rules over a rebuild -/

/-- A stored prohibition conflicts with a stored requirement or preference. -/
def Conflicts (tables : TextTables) (a b : ClientDirective) : Prop :=
  a.type = .mustNot ∧ b.category = a.category ∧ (b.type = .must ∨ b.type = .prefer) ∧
    overlaps (tokens tables a.text) (tokens tables b.text) = true

/-- The rows of two directives conflict when one directive opposes the other. -/
theorem conflicts_iff_opposes {a b : Reconciled} {rowA rowB : ClientDirective}
    (left : RowOf run a rowA) (right : RowOf run b rowB) :
    Conflicts tables rowA rowB ↔ opposes tables a.directive b.directive = true := by
  rw [Conflicts, opposes, decide_eq_true_eq, left.type, left.category, left.text, right.type,
    right.category, right.text]

/-- Whenever an extracted prohibition that comes before the directives of a key in rank order
opposes one of them, an extracted prohibition that is approved itself opposes it. -/
def Sheltered (tables : TextTables) (store : Store) (run : BuildRun) (key : DirectiveKey) : Prop :=
  let unique := dedupe tables [] run.extracted
  ∀ j d, unique[j]? = some d → d.key tables = key →
    (∃ i < unique.length, Precedes unique i j ∧ opposesAt tables unique i j = true) →
    ∃ m ∈ unique, opposes tables m d = true ∧
      m.key tables ∈ approvedDirectiveKeys tables store run.clientId

/-- What opposes a directive is a prohibition. -/
theorem type_of_opposes {a b : Directive} (opposed : opposes tables a b = true) :
    a.type = .mustNot := (of_decide_eq_true opposed).1

/-- An active prohibition is reconciled and approved. -/
theorem approved_of_active_mustNot {r : Reconciled} (inside : r ∈ gated tables store run)
    (active : r.status = .active) (prohibition : r.directive.type = .mustNot) :
    r ∈ reconcile tables run.extracted ∧
      r.directive.key tables ∈ approvedDirectiveKeys tables store run.clientId := by
  obtain ⟨reconciled, -, cleared⟩ := mem_gate_active.mp ⟨inside, active⟩
  refine ⟨reconciled, cleared ?_⟩
  simp [needsReview, prohibition]

/-- A rule whose row is active, or in conflict with an active prohibition, was sheltered. -/
theorem sheltered_of_survival (built : Built tables run store store' synced)
    (versioned : Versioned store) {d : ClientDirective} (listed : d ∈ store'.directives)
    (profile : d.profileId = run.profileId)
    (outcome : d.status = .active ∨
      ∃ m, ActiveOn store' run.profileId m ∧ Conflicts tables m d) :
    Sheltered tables store run (ClientDirective.key tables d) := by
  rintro j e place keyed ⟨i, bound, before, opposed⟩
  obtain ⟨r, inside, stores⟩ := built.gated_of_row versioned listed profile
  -- the row stores the one directive that is kept under the key
  have member : r.directive ∈ dedupe tables [] run.extracted :=
    exists_gated_iff_kept.mp ⟨r, inside, rfl⟩
  have same : r.directive = e := by
    apply List.inj_on_of_nodup_map (nodup_keys_dedupe tables [] run.extracted) member
      (List.mem_of_getElem? place)
    rw [← stores.key_eq, keyed]
  rcases outcome with active | ⟨m, onNew, conflict⟩
  · exfalso
    obtain ⟨reconciled, status, -⟩ := mem_gate_active.mp ⟨inside, stores.status.symm.trans active⟩
    obtain ⟨j', row⟩ := List.getElem?_of_mem reconciled
    have position : j' = j :=
      place_unique (getElem?_dedupe_of_reconcile row) place (congrArg (Directive.key tables) same)
    cases decision_of_getElem? row with
    | active _ unopposed =>
      rw [position] at unopposed
      rw [unopposed i bound before] at opposed
      cases opposed
    | conflicted => cases status
  · obtain ⟨r', inside', stores'⟩ := built.gated_of_row versioned onNew.listed onNew.profile
    have opposition := (conflicts_iff_opposes stores' stores).mp conflict
    obtain ⟨-, approved'⟩ := approved_of_active_mustNot inside'
      (stores'.status.symm.trans onNew.active) (type_of_opposes opposition)
    exact ⟨r'.directive, exists_gated_iff_kept.mp ⟨r', inside', rfl⟩, same ▸ opposition, approved'⟩

/-- A sheltered rule that is approved and extracted again is active, or in conflict with an
active prohibition. -/
theorem survival_of_sheltered (built : Built tables run store store' synced)
    (versioned : Versioned store) {key : DirectiveKey}
    (approved : key ∈ approvedDirectiveKeys tables store run.clientId)
    (again : key ∈ run.extracted.map (Directive.key tables))
    (sheltered : Sheltered tables store run key) :
    ∃ d ∈ store'.directives, d.profileId = run.profileId ∧ ClientDirective.key tables d = key ∧
      (d.status = .active ∨ ∃ m, ActiveOn store' run.profileId m ∧ Conflicts tables m d) := by
  obtain ⟨e, kept, keyed⟩ := List.mem_map.mp (mem_keys_dedupe.mpr again)
  have listed := kept
  rw [← directives_reconcile] at listed
  obtain ⟨r, reconciled, rfl⟩ := List.mem_map.mp listed
  obtain ⟨j, row⟩ := List.getElem?_of_mem reconciled
  have place := getElem?_dedupe_of_reconcile row
  cases decision_of_getElem? row with
  | active _ unopposed =>
    obtain ⟨inside, active⟩ := mem_gate_active.mpr
      ⟨reconciled, rfl, fun _ => keyed.symm ▸ approved⟩
    obtain ⟨d, listed', profile, stores⟩ := built.row_of_gated versioned inside
    exact ⟨d, listed', profile, stores.key_eq.trans keyed, .inl stores.status⟩
  | conflicted i _ bound before opposed =>
    obtain ⟨m, member, opposition, approved'⟩ :=
      sheltered j _ place keyed ⟨i, bound, before, opposed⟩
    rw [← directives_reconcile] at member
    obtain ⟨rm, reconciledM, rfl⟩ := List.mem_map.mp member
    have active := active_of_mustNot reconciledM (type_of_opposes opposition)
    obtain ⟨insideM, -⟩ := mem_gate_active.mpr ⟨reconciledM, active, fun _ => approved'⟩
    obtain ⟨held, inside, same⟩ := exists_gated_iff_kept.mpr kept
    obtain ⟨d, listedD, profileD, stores⟩ := built.row_of_gated versioned inside
    obtain ⟨m, listedM, profileM, storesM⟩ := built.row_of_gated versioned insideM
    refine ⟨d, listedD, profileD, ?_, .inr ⟨m, ⟨listedM, profileM, ?_⟩, ?_⟩⟩
    · rw [stores.key_eq, same, keyed]
    · exact storesM.status.trans active
    · rw [conflicts_iff_opposes storesM stores, same]
      exact opposition

/-- After every sequence of builds and resolutions: when a `must` or `must_not` is active on the
live profile and the next build extracts its key again, then on the new live profile it is active
or a prohibition that is active there conflicts with it, exactly when it is sheltered. -/
theorem approved_survives_iff (reached : (machine tables kit).Reachable Machine.anyStep store)
    (taken : (machine tables kit).next store (.build run) = some store') {live : ClientProfile}
    (isLive : liveProfile store run.clientId = some live) {d : ClientDirective}
    (on : ActiveOn store live.id d) (again : ClientDirective.key tables d ∈
      run.extracted.map (Directive.key tables)) :
    (∃ new, liveProfile store' run.clientId = some new ∧ ∃ d' ∈ store'.directives,
      d'.profileId = new.id ∧ ClientDirective.key tables d' = ClientDirective.key tables d ∧
        (d'.status = .active ∨ ∃ m, ActiveOn store' new.id m ∧ Conflicts tables m d')) ↔
      Sheltered tables store run (ClientDirective.key tables d) := by
  have versioned := versioned_of_reachable reached
  obtain ⟨synced, built⟩ := built_of_next taken
  have isNew := built.liveProfile_eq versioned
  constructor
  · rintro ⟨new, found, d', listed, profile, key, outcome⟩
    obtain rfl := Option.some.inj (found.symm.trans isNew)
    rw [← key]
    exact sheltered_of_survival built versioned listed profile outcome
  · intro sheltered
    have approved : ClientDirective.key tables d ∈
        approvedDirectiveKeys tables store run.clientId :=
      mem_approvedDirectiveKeys.mpr ⟨live, d, isLive, on, rfl⟩
    exact ⟨_, isNew, survival_of_sheltered built versioned approved again sheltered⟩

/-- A rule a client asks for. -/
def useStock : Directive :=
  ⟨.must, "design", "Use stock photos", .required, 10, 1, .empty, none⟩

/-- A sentence of a document that opposes the rule. -/
def noStock : Directive :=
  ⟨.mustNot, "design", "Do not use stock photos", .mandatory, 0, 1, .empty, none⟩

/-- The rule, approved on the first version, is active on the second when it is extracted alone. -/
theorem approved_survives_alone :
    ∃ before after, (machine .ascii .plain).play Machine.anyStep .empty
        [.build (plainBuild 10 [useStock]), .resolve 1 10 true] = some before ∧
      (machine .ascii .plain).next before (.build (plainBuild 20 [useStock])) = some after ∧
      ∃ new, liveProfile after 1 = some new ∧ ∃ d ∈ after.directives, d.profileId = new.id ∧
        ClientDirective.key .ascii d = useStock.key .ascii ∧
        (d.status = .active ∨ ∃ m, ActiveOn after new.id m ∧ Conflicts .ascii m d) := by
  obtain ⟨before, after, live, d, played, taken, isLive, on, keyed⟩ : ∃ before after live d,
      (machine .ascii .plain).play Machine.anyStep .empty
        [.build (plainBuild 10 [useStock]), .resolve 1 10 true] = some before ∧
      (machine .ascii .plain).next before (.build (plainBuild 20 [useStock])) = some after ∧
      liveProfile before 1 = some live ∧ ActiveOn before live.id d ∧
      ClientDirective.key .ascii d = useStock.key .ascii :=
    ⟨_, _, _, _, rfl, rfl, rfl, ⟨List.mem_singleton_self _, rfl, rfl⟩, rfl⟩
  have reached : (machine .ascii .plain).Reachable Machine.anyStep before :=
    ⟨.empty, _, ⟨fun _ => rfl, rfl, rfl, rfl⟩, Machine.run_of_play played⟩
  have again : ClientDirective.key .ascii d ∈
      (plainBuild 20 [useStock]).extracted.map (Directive.key .ascii) :=
    keyed ▸ List.mem_singleton_self _
  refine ⟨before, after, played, taken, ?_⟩
  have survives := (approved_survives_iff reached taken isLive on again).mpr ?_
  · rw [keyed] at survives
    exact survives
  · -- nothing that is extracted is a prohibition
    rintro j e place key ⟨i, bound, before, opposed⟩
    have prohibition := mustNot_of_opposesAt opposed
    have none : ∀ t ∈ (dedupe .ascii [] [useStock]).map Directive.type, t ≠ .mustNot := by decide
    obtain ⟨m, found, type⟩ := Option.map_eq_some_iff.mp prohibition
    exact absurd type (none _ (List.mem_map_of_mem (List.mem_of_getElem? found)))

/-- The approved rule is extracted again beside a prohibition that is new: the rule is conflicted,
the prohibition waits for review, and nothing is active on the new live profile. -/
theorem unreviewed_prohibition_disables :
    ∃ before after live new d, (machine .ascii .plain).play Machine.anyStep .empty
        [.build (plainBuild 10 [useStock]), .resolve 1 10 true] = some before ∧
      liveProfile before 1 = some live ∧ ActiveOn before live.id d ∧
      ClientDirective.key .ascii d = useStock.key .ascii ∧
      (machine .ascii .plain).next before (.build (plainBuild 20 [useStock, noStock])) =
        some after ∧
      liveProfile after 1 = some new ∧
      (after.directives.filter fun d => d.profileId = new.id).map
          (fun d => (d.type, d.status)) =
        [(.must, .conflicted), (.mustNot, .pendingReview)] := by
  refine ⟨_, _, _, _, _, rfl, rfl, ⟨List.mem_singleton_self _, rfl, rfl⟩, rfl, rfl, rfl, ?_⟩
  decide +kernel

/-! ## Flags over rebuilds -/

/-- Two dictionaries of flags are equal, in whatever order their entries are. -/
def SameFlags (left right : Flags) : Prop := ∀ flag, left.get flag = right.get flag

/-- An admin activated a directive: its client, its key and its flags. -/
structure Activation where
  clientId : Uuid
  key : DirectiveKey
  flags : Flags

/-- What a transaction activates by the decision of an admin. -/
def activations (tables : TextTables) (store : Store) : Label → List Activation
  | .resolve clientId directiveId true =>
    ((getOwned store.directives clientId directiveId).map fun d =>
      ⟨clientId, ClientDirective.key tables d, ClientDirective.flags d⟩).toList
  | _ => []

/-- Builds and resolutions with a log of the activations. -/
def reviewed (tables : TextTables) (kit : Toolkit) : Machine (Store × List Activation) Label :=
  (machine tables kit).logged (activations tables)

/-- The condition on a build: every directive that needs review and has an approved key, and is not
conflicted, sets the flags of a directive that is active under that key on the live profile. -/
def KeepsFlags (tables : TextTables) : Machine.Guard (Store × List Activation) Label
  | s, .build run => ∀ r ∈ reconcile tables run.extracted, r.status = .active →
      needsReview r.directive.type r.directive.capabilityFlags = true →
      r.directive.key tables ∈ approvedDirectiveKeys tables s.1 run.clientId →
      ∃ live d, liveProfile s.1 run.clientId = some live ∧ ActiveOn s.1 live.id d ∧
        ClientDirective.key tables d = r.directive.key tables ∧
        SameFlags (ClientDirective.flags d) r.directive.capabilityFlags
  | _, .resolve _ _ _ => True

/-- Equal dictionaries of flags need review alike. -/
theorem needsReview_congr {type : DirectiveType} {left right : Flags}
    (same : SameFlags left right) : needsReview type left = needsReview type right := by
  have bare : left.entries = [] ↔ right.entries = [] := by
    rw [Dict.entries_eq_nil_iff, Dict.entries_eq_nil_iff]
    exact forall_congr' fun flag => by rw [same flag]
  simp only [needsReview, ne_eq, bare]

/-- Every directive that is active on a live profile and needs review was activated with its
flags. -/
def Attested (tables : TextTables) (s : Store × List Activation) : Prop :=
  ∀ client live d, liveProfile s.1 client = some live → ActiveOn s.1 live.id d →
    needsReview d.type (ClientDirective.flags d) = true →
    ∃ a ∈ s.2, a.clientId = client ∧ a.key = ClientDirective.key tables d ∧
      SameFlags a.flags (ClientDirective.flags d)

variable {log : List Activation}

/-- A build that keeps the flags of what it carries over keeps every active rule attested. -/
theorem attested_of_built (versioned : Versioned store) (attested : Attested tables (store, log))
    (keeps : KeepsFlags tables (store, log) (.build run))
    (built : Built tables run store store' synced) : Attested tables (store', log) := by
  intro client live d isLive on needs
  by_cases own : client = run.clientId
  · subst own
    obtain rfl := Option.some.inj (isLive.symm.trans (built.liveProfile_eq versioned))
    obtain ⟨r, inside, stores⟩ := built.gated_of_row versioned on.listed on.profile
    obtain ⟨reconciled, active, cleared⟩ :=
      mem_gate_active.mp ⟨inside, stores.status.symm.trans on.active⟩
    rw [stores.type, stores.flags] at needs
    obtain ⟨before, d', isLive', on', key, flags⟩ :=
      keeps r reconciled active needs (cleared needs)
    have type : d'.type = r.directive.type := congrArg Prod.fst key
    rw [← needsReview_congr flags, ← type] at needs
    obtain ⟨a, listed, client, key', flags'⟩ := attested run.clientId before d' isLive' on' needs
    refine ⟨a, listed, client, ?_, fun flag => ?_⟩
    · rw [key', key, stores.key_eq]
    · rw [flags', flags, stores.flags]
  · -- another client's live profile and its directives are as they were
    have ⟨inside, owner, pointer⟩ := (versioned.built built).liveProfile_iff.mp isLive
    rw [built.current, if_neg own] at pointer
    rw [built.profiles_eq versioned, List.mem_append, List.mem_singleton] at inside
    have listed : live ∈ store.profiles := by
      rcases inside with old | rfl
      · rcases versioned.mem_supersedePrevious built.fresh old with ⟨kept, -⟩ | ⟨q, -, mine, rfl⟩
        · exact kept
        · exact absurd (owner.symm.trans mine) own
      · exact absurd owner.symm own
    have isLive' := versioned.liveProfile_iff.mpr ⟨listed, owner, pointer⟩
    exact attested client live d isLive' ((built.activeOn_iff listed).mp on) needs

/-- A resolution keeps every active rule attested: what it activates it records. -/
theorem attested_of_resolved {client id : Uuid} {activate : Bool} {directive : ClientDirective}
    (versioned : Versioned store) (attested : Attested tables (store, log))
    (resolved : Resolved client id activate store store' directive) :
    Attested tables (store', log ++ activations tables store (.resolve client id activate)) := by
  intro client' live d isLive on needs
  have ⟨inside, owner, pointer⟩ := (versioned.resolved resolved).liveProfile_iff.mp isLive
  have columns : store'.profiles.map (fun p => (p.id, p.clientId, p.version)) =
      store.profiles.map fun p => (p.id, p.clientId, p.version) := by
    rw [resolved.profiles]
    exact Table.map_modify _ _ fun _ _ => rfl
  obtain ⟨live', listed, same⟩ := Table.exists_of_map_eq columns inside
  simp only [Prod.mk.injEq] at same
  have isLive' : liveProfile store client' = some live' := by
    rw [versioned.liveProfile_iff]
    refine ⟨listed, same.2.1.trans owner, ?_⟩
    rw [same.2.2, ← resolved.current]
    exact pointer
  have member := on.listed
  rw [resolved.directives] at member
  rcases Table.mem_modify.mp member with ⟨before, -⟩ | ⟨old, before, named, rfl⟩
  · obtain ⟨a, recorded, facts⟩ := attested client' live' d isLive'
      ⟨before, on.profile.trans same.1.symm, on.active⟩ needs
    exact ⟨a, List.mem_append_left _ recorded, facts⟩
  · obtain rfl := List.inj_on_of_nodup_map versioned.directiveIds before resolved.inside
      (named.trans resolved.named.symm)
    have activated : activate = true := by
      have active := on.active
      cases activate with
      | true => rfl
      | false => cases active
    obtain ⟨p, known, id, owner'⟩ := versioned.owners old before
    have profile : p = live' := by
      apply List.inj_on_of_nodup_map versioned.ids known listed
      rw [id, same.1]
      exact on.profile
    refine ⟨⟨client, ClientDirective.key tables old, ClientDirective.flags old⟩, ?_, ?_, rfl,
      fun flag => rfl⟩
    · rw [activated, activations, resolved.found]
      exact List.mem_append_right _ (List.mem_singleton_self _)
    · show client = client'
      rw [← resolved.owned, ← owner', profile, same.2.1, owner]

/-- In every history of builds that keep the flags of what they carry over, and of resolutions of
directives of any version: every directive that is active on a live profile and is a `must`, a
`must_not` or sets a flag has the key of a directive of the client that an admin activated before,
with the same flags. -/
theorem binding_rules_attested {s : Store × List Activation}
    (reached : (reviewed tables kit).Reachable (KeepsFlags tables) s) : Attested tables s := by
  apply reached.induction (Attested tables)
  · rintro s ⟨⟨-, profiles, directives, -⟩, -⟩ client live d isLive on
    have listed := on.listed
    rw [directives] at listed
    exact absurd listed List.not_mem_nil
  · rintro ⟨store, log⟩ label s' before attested keeps taken
    have versioned : Versioned store :=
      versioned_of_reachable (Machine.reachable_of_logged before)
    obtain ⟨store', moved, rfl⟩ := Option.map_eq_some_iff.mp taken
    cases label with
    | build run =>
      obtain ⟨synced, built⟩ := built_of_next moved
      have kept := attested_of_built versioned attested keeps built
      show Attested tables (store', log ++ [])
      rw [List.append_nil]
      exact kept
    | resolve client id activate =>
      obtain ⟨directive, resolved⟩ := resolved_of_next moved
      exact attested_of_resolved versioned attested resolved

/-- The net's sentence as the model returns it, without the flag. -/
def plainNoEmoji : Directive := { noEmoji with capabilityFlags := .empty }

/-- An approved rule that is extracted again with its flag is attested on the second version. -/
theorem binding_rules_attested_rebuild :
    ∃ s, (reviewed .ascii .plain).Run (KeepsFlags .ascii) (.empty, [])
        [.build (plainBuild 10 [noEmoji]), .resolve 1 10 true, .build (plainBuild 20 [noEmoji])] s ∧
      Attested .ascii s := by
  obtain ⟨first, second, third, live, d, built, resolved, rebuilt, isLive, on, key, flags⟩ :
      ∃ first second third live d,
        (reviewed .ascii .plain).next (.empty, []) (.build (plainBuild 10 [noEmoji])) =
          some first ∧
        (reviewed .ascii .plain).next first (.resolve 1 10 true) = some second ∧
        (reviewed .ascii .plain).next second (.build (plainBuild 20 [noEmoji])) = some third ∧
        liveProfile second.1 1 = some live ∧ ActiveOn second.1 live.id d ∧
        ClientDirective.key .ascii d = noEmoji.key .ascii ∧
        ClientDirective.flags d = noEmoji.capabilityFlags :=
    ⟨_, _, _, _, _, rfl, rfl, rfl, rfl, ⟨List.mem_singleton_self _, rfl, rfl⟩, rfl, rfl⟩
  have single : ∀ r ∈ reconcile .ascii [noEmoji], r.directive = noEmoji := by
    intro r inside
    have kept := List.mem_map_of_mem (f := Reconciled.directive) inside
    rw [directives_reconcile] at kept
    exact List.mem_singleton.mp kept
  have fresh : KeepsFlags .ascii (.empty, []) (.build (plainBuild 10 [noEmoji])) :=
    fun _ _ _ _ approved => absurd approved List.not_mem_nil
  have carried : KeepsFlags .ascii second (.build (plainBuild 20 [noEmoji])) := by
    intro r inside _ _ _
    rw [single r inside]
    exact ⟨live, d, isLive, on, key, fun flag => by rw [flags]⟩
  have run : (reviewed .ascii .plain).Run (KeepsFlags .ascii) (.empty, [])
      [.build (plainBuild 10 [noEmoji]), .resolve 1 10 true, .build (plainBuild 20 [noEmoji])]
      third :=
    .cons fresh built (.cons trivial resolved (.cons carried rebuilt (.nil third)))
  exact ⟨third, run, binding_rules_attested ⟨_, _, ⟨⟨fun _ => rfl, rfl, rfl, rfl⟩, rfl⟩, run⟩⟩

/-- The model returns a prohibition without its flag, an admin approves it, and the next build
extracts it with the flag: the flag is live although it was never reviewed. -/
theorem flag_live_unreviewed :
    ∃ store log live d, (reviewed .ascii .plain).play Machine.anyStep (.empty, [])
        [.build (plainBuild 10 [plainNoEmoji]), .resolve 1 10 true,
          .build (plainBuild 20 [noEmoji])] = some (store, log) ∧
      liveProfile store 1 = some live ∧ live.capabilityFlags.get "emoji" = some (.bool false) ∧
      ActiveOn store live.id d ∧ (ClientDirective.flags d).get "emoji" = some (.bool false) ∧
      ∀ a ∈ log, a.flags.get "emoji" = none := by
  refine ⟨_, _, _, _, rfl, rfl, ?_, ⟨List.mem_cons_of_mem _ (List.mem_singleton_self _), rfl, rfl⟩,
    ?_, ?_⟩
  · decide +kernel
  · decide +kernel
  · decide +kernel

end MarketingOS.Intelligence
