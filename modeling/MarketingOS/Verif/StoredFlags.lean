import MarketingOS.Verif.CapabilityFlags
import MarketingOS.Verif.ProfileVersions

/-!
# Stored capability flags

The flags a profile stores are the fold of the flags of its active directives, whoever folded them
last: the build in the order of extraction, or a resolution in rank order.
-/
namespace MarketingOS.Intelligence

variable {tables : TextTables} {kit : Toolkit} {store store' : Store}

/-- A directive is active on a profile. -/
structure ActiveOn (store : Store) (profileId : Uuid) (d : ClientDirective) : Prop where
  listed : d ∈ store.directives
  profile : d.profileId = profileId
  active : d.status = .active

/-- The flags of a profile are a fold over those of its active directives. -/
def Folded (store : Store) (p : ClientProfile) : Prop :=
  ∃ all : List Flags, p.capabilityFlags = all.foldl foldFlags .empty ∧
    ∀ flags, flags ∈ all ↔ ∃ d, ActiveOn store p.id d ∧ ClientDirective.flags d = flags

/-- Folding the active directives of a profile in rank order. -/
theorem folded_recomputed (store : Store) (profileId : Uuid) :
    ∃ all : List Flags, recomputedFlags store.directives profileId = all.foldl foldFlags .empty ∧
      ∀ flags, flags ∈ all ↔
        ∃ d, ActiveOn store profileId d ∧ ClientDirective.flags d = flags := by
  refine ⟨_, rfl, fun flags => ?_⟩
  simp only [List.mem_map, List.mem_filter, activeForProfile, StableSort.mem_sortBy,
    decide_eq_true_eq]
  constructor
  · rintro ⟨d, ⟨⟨listed, profile⟩, active⟩, same⟩
    exact ⟨d, ⟨listed, profile, active⟩, same⟩
  · rintro ⟨d, on, same⟩
    exact ⟨d, ⟨⟨on.listed, on.profile⟩, on.active⟩, same⟩

/-- A profile whose active directives are those of a stored one, with its flags, is folded. -/
theorem Folded.congr {p q : ClientProfile} (folded : Folded store q) (id : p.id = q.id)
    (flags : p.capabilityFlags = q.capabilityFlags)
    (same : ∀ d, ActiveOn store' q.id d ↔ ActiveOn store q.id d) : Folded store' p := by
  obtain ⟨all, fold, members⟩ := folded
  refine ⟨all, flags.trans fold, fun flags => ?_⟩
  rw [members, id]
  simp only [same]

variable {run : BuildRun} {synced : List SyncedSource}

/-- A build leaves the active directives of every profile that was there. -/
theorem Built.activeOn_iff (built : Built tables run store store' synced) {p : ClientProfile}
    (listed : p ∈ store.profiles) {d : ClientDirective} :
    ActiveOn store' p.id d ↔ ActiveOn store p.id d := by
  constructor
  · intro on
    have member := on.listed
    rw [built.directives, List.mem_append] at member
    rcases member with before | new
    · exact ⟨before, on.profile, on.active⟩
    · obtain ⟨r, -, stores⟩ := rowOf_of_mem new
      have clash : p.id = run.profileId := on.profile.symm.trans stores.profileId
      exact absurd (clash ▸ List.mem_map_of_mem listed) built.fresh
  · intro on
    refine ⟨?_, on.profile, on.active⟩
    rw [built.directives]
    exact List.mem_append_left _ on.listed

/-- After a build the flags of every profile are folded. -/
theorem folded_of_built
    (versioned : Versioned store) (folded : ∀ p ∈ store.profiles, Folded store p)
    (built : Built tables run store store' synced) : ∀ p ∈ store'.profiles, Folded store' p := by
  intro p inside
  rw [built.profiles_eq versioned, List.mem_append, List.mem_singleton] at inside
  rcases inside with old | rfl
  · obtain ⟨q, listed, id, flags⟩ : ∃ q ∈ store.profiles, p.id = q.id ∧
        p.capabilityFlags = q.capabilityFlags := by
      rcases versioned.mem_supersedePrevious built.fresh old with ⟨kept, -⟩ | ⟨q, kept, -, rfl⟩
      · exact ⟨p, kept, rfl, rfl⟩
      · exact ⟨q, kept, rfl, rfl⟩
    exact (folded q listed).congr id flags fun d => built.activeOn_iff listed
  · refine ⟨_, rfl, fun flags => ?_⟩
    simp only [List.mem_map, List.mem_filter, decide_eq_true_eq]
    constructor
    · rintro ⟨r, ⟨inside, active⟩, rfl⟩
      obtain ⟨row, listed, profile, stores⟩ := built.row_of_gated versioned inside
      exact ⟨row, ⟨listed, profile, stores.status.trans active⟩, stores.flags⟩
    · rintro ⟨d, on, rfl⟩
      obtain ⟨r, inside, stores⟩ := built.gated_of_row versioned on.listed on.profile
      exact ⟨r, ⟨inside, stores.status.symm.trans on.active⟩, stores.flags.symm⟩

/-- After a resolution the flags of every profile are folded. -/
theorem folded_of_resolved {client id : Uuid} {activate : Bool} {directive : ClientDirective}
    (versioned : Versioned store) (folded : ∀ p ∈ store.profiles, Folded store p)
    (resolved : Resolved client id activate store store' directive) :
    ∀ p ∈ store'.profiles, Folded store' p := by
  intro p inside
  rw [resolved.profiles] at inside
  rcases Table.mem_modify.mp inside with ⟨listed, other⟩ | ⟨q, listed, same, rfl⟩
  · -- the directive that changed is one of another profile
    have apart : ∀ d ∈ store.directives, d.profileId = p.id → d.id ≠ id := by
      intro d member owner named
      have this := List.inj_on_of_nodup_map versioned.directiveIds member resolved.inside
        (named.trans resolved.named.symm)
      exact other (this ▸ owner).symm
    refine (folded p listed).congr rfl rfl fun d => ⟨fun on => ?_, fun on => ?_⟩
    · have member := on.listed
      rw [resolved.directives] at member
      rcases Table.mem_modify.mp member with ⟨before, -⟩ | ⟨old, before, named, rfl⟩
      · exact ⟨before, on.profile, on.active⟩
      · exact absurd named (apart old before on.profile)
    · refine ⟨?_, on.profile, on.active⟩
      rw [resolved.directives]
      exact Table.mem_modify.mpr (.inl ⟨on.listed, apart d on.listed on.profile⟩)
  · rw [Folded]
    show ∃ all : List Flags, recomputedFlags store'.directives directive.profileId = _ ∧
      ∀ flags, flags ∈ all ↔ ∃ d, ActiveOn store' q.id d ∧ ClientDirective.flags d = flags
    rw [same]
    exact folded_recomputed store' directive.profileId

/-- After every sequence of builds and resolutions the flags of every profile are folded. -/
theorem folded_of_reachable (reached : (machine tables kit).Reachable Machine.anyStep store) :
    ∀ p ∈ store.profiles, Folded store p := by
  apply reached.induction fun store => ∀ p ∈ store.profiles, Folded store p
  · rintro store ⟨-, profiles, -, -⟩
    rw [profiles]
    exact fun p inside => absurd inside List.not_mem_nil
  · intro store label store' before folded _ taken
    have versioned := versioned_of_reachable before
    cases label with
    | build run =>
      obtain ⟨synced, built⟩ := built_of_next taken
      exact folded_of_built versioned folded built
    | resolve client id activate =>
      obtain ⟨directive, resolved⟩ := resolved_of_next taken
      exact folded_of_resolved versioned folded resolved

/-- What some folded flags are is what those of some active directive are. -/
theorem exists_flags_iff {profileId : Uuid} {all : List Flags}
    (members : ∀ flags, flags ∈ all ↔
      ∃ d, ActiveOn store profileId d ∧ ClientDirective.flags d = flags) (holds : Flags → Prop) :
    (∃ flags ∈ all, holds flags) ↔
      ∃ d, ActiveOn store profileId d ∧ holds (ClientDirective.flags d) := by
  simp only [members]
  constructor
  · rintro ⟨_, ⟨d, on, rfl⟩, fact⟩
    exact ⟨d, on, fact⟩
  · rintro ⟨d, on, fact⟩
    exact ⟨_, ⟨d, on, rfl⟩, fact⟩

/-- After every sequence of builds and resolutions, and for every profile version: a flag is stored
exactly when an active directive carries it, and a boolean one is `false` exactly when an active
directive says so. The fold of a build and the fold of a resolution agree on every set of
directives with boolean flags, and so the stored flag is the one a resolution would store. -/
theorem stored_flags_match (reached : (machine tables kit).Reachable Machine.anyStep store)
    {p : ClientProfile} (inside : p ∈ store.profiles) (flag : String) :
    (p.capabilityFlags.Has flag ↔
      ∃ d, ActiveOn store p.id d ∧ (ClientDirective.flags d).Has flag) ∧
    ((∀ d, ActiveOn store p.id d → ∀ value, (ClientDirective.flags d).get flag = some value →
        ∃ b, value = .bool b) →
      (p.capabilityFlags.get flag = some (.bool false) ↔
        ∃ d, ActiveOn store p.id d ∧ (ClientDirective.flags d).get flag = some (.bool false)) ∧
      p.capabilityFlags.get flag = (recomputedFlags store.directives p.id).get flag) ∧
    ∀ (reconciled : List Reconciled) (directives : List ClientDirective) (profileId : Uuid),
      (∀ flags, (∃ r ∈ reconciled, r.status = .active ∧ r.directive.capabilityFlags = flags) ↔
        ∃ d ∈ directives, d.profileId = profileId ∧ d.status = .active ∧
          ClientDirective.flags d = flags) →
      (∀ r ∈ reconciled, r.status = .active → ∀ value,
        r.directive.capabilityFlags.get flag = some value → ∃ b, value = .bool b) →
      (mergeCapabilityFlags reconciled).get flag =
        (recomputedFlags directives profileId).get flag := by
  obtain ⟨all, fold, members⟩ := folded_of_reachable reached p inside
  refine ⟨?_, ?_, ?_⟩
  · rw [fold, carries_foldl]
    exact exists_flags_iff members fun flags => flags.Has flag
  · intro boolean
    have switches : Switches all flag := by
      intro flags listed value found
      obtain ⟨d, on, rfl⟩ := (members flags).mp listed
      exact boolean d on value found
    refine ⟨?_, ?_⟩
    · rw [fold, (switch_foldl switches).2]
      exact exists_flags_iff members fun flags => flags.get flag = some (.bool false)
    · obtain ⟨ranked, fold', members'⟩ := folded_recomputed store p.id
      rw [fold, fold']
      apply get_foldl_congr _ switches
      intro flags
      rw [members, members']
  · intro reconciled directives profileId same boolean
    apply get_foldl_congr
    · intro flags
      have read := same flags
      simp only [List.mem_map, List.mem_filter, activeForProfile, StableSort.mem_sortBy,
        decide_eq_true_eq, and_assoc] at read ⊢
      exact read
    · intro flags listed value found
      obtain ⟨r, kept, rfl⟩ := List.mem_map.mp listed
      obtain ⟨member, active⟩ := List.mem_filter.mp kept
      exact boolean r member (of_decide_eq_true active) value found

/-- A prohibition of emoji, as the capability net adds it. -/
def noEmoji : Directive :=
  ⟨.mustNot, "content", "Do not use emoji", .mandatory, 0, 1,
    Dict.empty.set "emoji" (.bool false), none⟩

/-- A prohibition waits for review, and sets its flag once an admin activates it. -/
theorem stored_flags_match_after_review :
    ∃ before after, (machine .ascii .plain).next .empty (.build (plainBuild 10 [noEmoji])) =
        some before ∧
      (machine .ascii .plain).next before (.resolve 1 10 true) = some after ∧
      (∀ p ∈ before.profiles, p.capabilityFlags.get "emoji" = none) ∧
      ∃ p ∈ after.profiles, p.capabilityFlags.Has "emoji" := by
  obtain ⟨before, after, built, resolved, unset, p, inside, d, on, carried⟩ :
      ∃ before after, (machine .ascii .plain).next .empty (.build (plainBuild 10 [noEmoji])) =
          some before ∧
        (machine .ascii .plain).next before (.resolve 1 10 true) = some after ∧
        (∀ p ∈ before.profiles, p.capabilityFlags.get "emoji" = none) ∧
        ∃ p ∈ after.profiles, ∃ d, ActiveOn after p.id d ∧
          (ClientDirective.flags d).Has "emoji" := by
    refine ⟨_, _, rfl, rfl, by decide +kernel, _, List.mem_singleton_self _, _,
      ⟨List.mem_singleton_self _, rfl, rfl⟩, _, rfl⟩
  have reached : (machine .ascii .plain).Reachable Machine.anyStep after :=
    ⟨.empty, _, ⟨fun _ => rfl, rfl, rfl, rfl⟩,
      .cons trivial built (.cons trivial resolved (.nil _))⟩
  refine ⟨before, after, built, resolved, unset, p, inside, ?_⟩
  exact (stored_flags_match reached inside "emoji").1.mpr ⟨d, on, carried⟩

end MarketingOS.Intelligence
