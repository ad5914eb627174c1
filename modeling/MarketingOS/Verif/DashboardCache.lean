import MarketingOS.Services.Dashboard
import MarketingOS.Verif.ReviewGate

/-!
# Soundness of the dashboard cache

The fingerprint holds the signals whole and of the context only the version. It stands for the
context as long as a version keeps its name, its active directives and its flags: a build of
intelligence makes a new version, and a resolution edits one in place.
-/
namespace MarketingOS.Intelligence

variable {tables : TextTables} {kit : Toolkit} {store store' : Store} {run : BuildRun}
  {synced : List SyncedSource} {client : Uuid}

/-! ## Contexts -/

/-- Two contexts are equal; the order of the flags does not count. -/
structure ClientContext.Same (left right : ClientContext) : Prop where
  version : left.version = right.version
  preamble : left.preamble = right.preamble
  directives : left.directives = right.directives
  flags : SameFlags left.capabilityFlags right.capabilityFlags

/-- A context is equal to itself. -/
theorem ClientContext.Same.refl (context : ClientContext) : context.Same context :=
  ⟨rfl, rfl, rfl, fun _ => rfl⟩

/-- Equal contexts are equal to the same contexts. -/
theorem ClientContext.Same.trans {first second third : ClientContext} (left : first.Same second)
    (right : second.Same third) : first.Same third :=
  ⟨left.version.trans right.version, left.preamble.trans right.preamble,
    left.directives.trans right.directives,
    fun flag => (left.flags flag).trans (right.flags flag)⟩

/-- The version of a context is that of the live profile. -/
theorem version_buildContext (store : Store) (name : String) (client : Uuid) :
    (buildContext store name client).version =
      (liveProfile store client).map ClientProfile.version := by
  unfold buildContext
  cases liveProfile store client with
  | none => rfl
  | some profile => rfl

/-- Without a live profile there is one context. -/
theorem buildContext_none {name : String} (unset : liveProfile store client = none) :
    buildContext store name client = ⟨none, noProfilePreamble, .empty, []⟩ := by
  rw [buildContext, unset]

/-- Live profiles of one version with the same active directives and flags have equal contexts. -/
theorem same_buildContext {name : String} {profile profile' : ClientProfile}
    (live : liveProfile store client = some profile)
    (live' : liveProfile store' client = some profile')
    (version : profile'.version = profile.version)
    (directives : activeDirectives store'.directives profile'.id =
      activeDirectives store.directives profile.id)
    (flags : SameFlags profile'.capabilityFlags profile.capabilityFlags) :
    (buildContext store' name client).Same (buildContext store name client) := by
  rw [buildContext, live', buildContext, live]
  refine ⟨congrArg some version, ?_, directives, flags⟩
  show renderPreamble name _ = renderPreamble name _
  rw [directives]

/-! ## Builds -/

/-- A build leaves the active directives of every profile that was there. -/
theorem Built.activeDirectives_eq (built : Built tables run store store' synced)
    {p : ClientProfile} (listed : p ∈ store.profiles) :
    activeDirectives store'.directives p.id = activeDirectives store.directives p.id := by
  have others : (builtRows run synced (gated tables store run)).filter
      (fun d => d.profileId = p.id) = [] := by
    rw [List.filter_eq_nil_iff]
    intro d new same
    obtain ⟨r, -, stores⟩ := rowOf_of_mem new
    have clash : p.id = run.profileId := (of_decide_eq_true same).symm.trans stores.profileId
    exact built.fresh (clash ▸ List.mem_map_of_mem listed)
  rw [activeDirectives, activeDirectives, activeForProfile, activeForProfile, built.directives,
    List.filter_append, others, List.append_nil]

/-- A build leaves the live profile of every other client. -/
theorem Built.liveProfile_other (built : Built tables run store store' synced)
    (versioned : Versioned store) (other : client ≠ run.clientId) :
    liveProfile store' client = liveProfile store client := by
  apply Option.ext
  intro p
  rw [(versioned.built built).liveProfile_iff, versioned.liveProfile_iff, built.current,
    if_neg other, built.profiles_eq versioned, List.mem_append, List.mem_singleton]
  constructor
  · rintro ⟨old | rfl, owner, pointer⟩
    · rcases versioned.mem_supersedePrevious built.fresh old with ⟨kept, -⟩ | ⟨q, -, mine, rfl⟩
      · exact ⟨kept, owner, pointer⟩
      · exact absurd (owner.symm.trans mine) other
    · exact absurd owner.symm other
  · rintro ⟨listed, owner, pointer⟩
    refine ⟨.inl ?_, owner, pointer⟩
    unfold supersedePrevious
    split
    · exact listed
    · next prev live =>
      split
      · refine Table.mem_modify.mpr (.inl ⟨listed, fun same => ?_⟩)
        obtain ⟨inside, mine, -⟩ := versioned.liveProfile_iff.mp live
        have clash := List.inj_on_of_nodup_map versioned.ids listed inside same
        exact other (owner.symm.trans ((congrArg ClientProfile.clientId clash).trans mine))
      · exact listed

/-- A build leaves the context of every other client. -/
theorem Built.buildContext_other (built : Built tables run store store' synced)
    (versioned : Versioned store) (other : client ≠ run.clientId) (name : String) :
    buildContext store' name client = buildContext store name client := by
  have live' := built.liveProfile_other versioned other
  cases live : liveProfile store client with
  | none => rw [buildContext_none live, buildContext_none (live'.trans live)]
  | some profile =>
    have listed := (versioned.liveProfile_iff.mp live).1
    rw [buildContext, live', live, buildContext, live]
    simp only [built.activeDirectives_eq listed]

/-! ## Resolutions -/

/-- A change of rows that keeps their profile and their place, and touches no active row, leaves the
active directives of a profile. -/
theorem activeDirectives_map {change : ClientDirective → ClientDirective} {profileId : Uuid}
    {directives : List ClientDirective} (profile : ∀ d, (change d).profileId = d.profileId)
    (place : ∀ d, toLex ((change d).rank, (change d).createdAt) = toLex (d.rank, d.createdAt))
    (keeps : ∀ d ∈ directives, d.profileId = profileId →
      change d = d ∨ (change d).status ≠ .active ∧ d.status ≠ .active) :
    activeDirectives (directives.map change) profileId =
      activeDirectives directives profileId := by
  have moved : activeForProfile (directives.map change) profileId =
      (activeForProfile directives profileId).map change := by
    have own : ((fun d => decide (d.profileId = profileId)) ∘ change) =
        fun d => decide (d.profileId = profileId) := by
      funext d
      rw [Function.comp_apply, profile]
    simp only [activeForProfile, List.filter_map, own, StableSort.sortBy_map, place]
  have inside : ∀ d ∈ activeForProfile directives profileId,
      change d = d ∨ (change d).status ≠ .active ∧ d.status ≠ .active := by
    intro d listed
    rw [activeForProfile, StableSort.mem_sortBy, List.mem_filter] at listed
    exact keeps d listed.1 (of_decide_eq_true listed.2)
  have status : ∀ d ∈ activeForProfile directives profileId,
      ((fun d => decide (d.status = .active)) ∘ change) d = decide (d.status = .active) := by
    intro d listed
    rcases inside d listed with same | ⟨after, before⟩
    · rw [Function.comp_apply, same]
    · rw [Function.comp_apply, decide_eq_false after, decide_eq_false before]
  have unchanged : ∀ d ∈ (activeForProfile directives profileId).filter (·.status = .active),
      change d = id d := by
    intro d listed
    obtain ⟨listed, active⟩ := List.mem_filter.mp listed
    exact (inside d listed).resolve_right fun both => both.2 (of_decide_eq_true active)
  rw [activeDirectives, moved, List.filter_map, List.filter_congr status,
    List.map_congr_left unchanged, List.map_id, activeDirectives]

/-- What a resolution may be while a bundle is cached: if the directive is one of the client's live
profile, its decision changes nothing that is active, and the flags it folds are those stored. -/
def KeepsLive (store : Store) (client : Uuid) (activate : Bool) (directive : ClientDirective) :
    Prop :=
  ∀ live, liveProfile store client = some live → directive.profileId = live.id →
    (directive.status = .active ↔ activate = true) ∧
      SameFlags (recomputedFlags store.directives live.id) live.capabilityFlags

variable {owner id : Uuid} {activate : Bool} {directive : ClientDirective}

/-- A resolution of another profile's directive, or one that changes nothing that is active, leaves
the active directives of a profile. -/
theorem Resolved.activeDirectives_eq (resolved : Resolved owner id activate store store' directive)
    (versioned : Versioned store) {profileId : Uuid}
    (keeps : directive.profileId = profileId → (directive.status = .active ↔ activate = true)) :
    activeDirectives store'.directives profileId = activeDirectives store.directives profileId := by
  rw [resolved.directives, Table.modify]
  apply activeDirectives_map
  · intro d
    split
    · rfl
    · rfl
  · intro d
    split
    · rfl
    · rfl
  · intro d listed profile
    split
    · next named =>
      obtain rfl := List.inj_on_of_nodup_map versioned.directiveIds listed resolved.inside
        (named.trans resolved.named.symm)
      have decided := keeps profile
      cases activate with
      | true =>
        have active : d.status = .active := decided.mpr rfl
        left
        cases d
        cases active
        rfl
      | false =>
        refine .inr ⟨?_, fun active => Bool.false_ne_true (decided.mp active)⟩
        intro active
        cases active
    · exact .inl rfl

/-- A profile after a resolution. -/
def reflagged (store' : Store) (profileId : Uuid) (p : ClientProfile) : ClientProfile :=
  if p.id = profileId then
    { p with capabilityFlags := recomputedFlags store'.directives profileId }
  else p

/-- A resolution keeps the identifier and the version of a profile. -/
theorem columns_reflagged (store' : Store) (profileId : Uuid) (p : ClientProfile) :
    (reflagged store' profileId p).id = p.id ∧
      (reflagged store' profileId p).clientId = p.clientId ∧
      (reflagged store' profileId p).version = p.version := by
  unfold reflagged
  split
  · exact ⟨rfl, rfl, rfl⟩
  · exact ⟨rfl, rfl, rfl⟩

/-- A resolution keeps which profile is live. -/
theorem Resolved.liveProfile_eq (resolved : Resolved owner id activate store store' directive)
    (client : Uuid) : liveProfile store' client =
      (liveProfile store client).map (reflagged store' directive.profileId) := by
  have named : ∀ version, getVersion store'.profiles client version =
      (getVersion store.profiles client version).map (reflagged store' directive.profileId) := by
    intro version
    rw [getVersion, resolved.profiles, getVersion]
    show List.find? _ (List.map (reflagged store' directive.profileId) _) = _
    rw [List.find?_map]
    congr 2
    funext p
    rw [Function.comp_apply, (columns_reflagged store' _ p).2.1, (columns_reflagged store' _ p).2.2]
  rw [liveProfile, resolved.current, liveProfile]
  cases store.current client with
  | none => rfl
  | some version => exact named version

/-- A resolution that keeps the live profile of a client leaves its context. -/
theorem Resolved.same_buildContext
    (resolved : Resolved owner id activate store store' directive) (versioned : Versioned store)
    (keeps : KeepsLive store client activate directive) (name : String) :
    (buildContext store' name client).Same (buildContext store name client) := by
  have live' := resolved.liveProfile_eq client
  cases live : liveProfile store client with
  | none =>
    rw [live, Option.map_none] at live'
    rw [buildContext_none live, buildContext_none live']
    exact .refl _
  | some profile =>
    rw [live, Option.map_some] at live'
    obtain ⟨sameId, -, sameVersion⟩ := columns_reflagged store' directive.profileId profile
    have kept := resolved.activeDirectives_eq versioned fun same => (keeps profile live same).1
    refine Intelligence.same_buildContext live live' sameVersion ?_ ?_
    · rw [sameId]
      exact kept
    · intro flag
      unfold reflagged
      split
      · next same =>
        have folded : recomputedFlags store'.directives profile.id =
            recomputedFlags store.directives profile.id :=
          congrArg (fun active => (active.map ClientDirective.flags).foldl foldFlags .empty) kept
        show (recomputedFlags _ directive.profileId).get flag = _
        rw [← same, folded]
        exact (keeps profile live same.symm).2 flag
      · rfl

end MarketingOS.Intelligence

namespace MarketingOS.Dashboard

open Intelligence

variable {η ρ : Type} {tables : TextTables} {kit : Toolkit}
  {digest : Fingerprinted → η} {clientId : Uuid} {w w' : World η ρ}

/-- What the engines read is equal; the order of the flags does not count. -/
structure EngineInputs.Same (left right : EngineInputs) : Prop where
  clientName : left.clientName = right.clientName
  context : left.context.Same right.context
  signals : left.signals = right.signals

/-- While a bundle is cached, the client keeps its name, and its live profile is not edited. -/
def Covered (clientId : Uuid) : Machine.Guard (World η ρ) (Label ρ)
  | w, .change data => w.snapshot ≠ none → data.name = w.data.name
  | w, .intelligence (.resolve owner directiveId activate) => w.snapshot ≠ none →
    ∀ directive, getOwned w.store.directives owner directiveId = some directive →
      KeepsLive w.store clientId activate directive
  | _, _ => True

/-- The stored bundle was generated from these inputs: it carries their fingerprint, they have the
client's name, their version is not a later one, and while it is current they have its context. -/
structure Stored (digest : Fingerprinted → η) (clientId : Uuid) (w : World η ρ)
    (snapshot : DashboardSnapshot η ρ) (inputs : EngineInputs) : Prop where
  hash : snapshot.inputsHash = hashInputs digest inputs.signals inputs.context.version
  name : inputs.clientName = w.data.name
  earlier : ∀ version, inputs.context.version = some version →
    version ≤ (versionsOf w.store.profiles clientId).length
  current : inputs.context.version = (buildContext w.store w.data.name clientId).version →
    (buildContext w.store w.data.name clientId).Same inputs.context

/-- The tables are versioned, and what is stored was generated from what is recorded. -/
structure Sound (digest : Fingerprinted → η) (clientId : Uuid) (w : World η ρ) : Prop where
  versioned : Versioned w.store
  stored : ∀ snapshot, w.snapshot = some snapshot →
    ∃ inputs, w.generatedFrom = some inputs ∧ Stored digest clientId w snapshot inputs

/-- The number of versions the client has. -/
def World.versions (clientId : Uuid) (w : World η ρ) : Nat :=
  (versionsOf w.store.profiles clientId).length

/-- A step keeps what is stored when the name stays, and the context stays or gets a version that
was not there. -/
theorem Stored.kept {snapshot : DashboardSnapshot η ρ} {inputs : EngineInputs}
    (stored : Stored digest clientId w snapshot inputs) (name : w'.data.name = w.data.name)
    (more : w.versions clientId ≤ w'.versions clientId)
    (context :
      (buildContext w'.store w'.data.name clientId).Same
        (buildContext w.store w.data.name clientId) ∨
      (buildContext w'.store w'.data.name clientId).version = some (w.versions clientId + 1)) :
    Stored digest clientId w' snapshot inputs := by
  refine ⟨stored.hash, stored.name.trans name.symm, ?_, ?_⟩
  · intro version known
    exact (stored.earlier version known).trans more
  · intro current
    rcases context with same | new
    · exact same.trans (stored.current (current.trans same.version))
    · have bound : w.versions clientId + 1 ≤ w.versions clientId :=
        stored.earlier _ (current.trans new)
      omega

/-- A build of intelligence keeps what is stored. -/
theorem Sound.built {run : BuildRun} {synced : List SyncedSource} {store' : Store}
    (sound : Sound digest clientId w) (built : Built tables run w.store store' synced) :
    Sound digest clientId { w with store := store' } := by
  refine ⟨sound.versioned.built built, ?_⟩
  intro snapshot cached
  obtain ⟨inputs, recorded, stored⟩ := sound.stored snapshot cached
  have versions := built.versionsOf_eq sound.versioned clientId
  refine ⟨inputs, recorded, stored.kept rfl ?_ ?_⟩
  · show _ ≤ (versionsOf store'.profiles clientId).length
    rw [versions]
    split
    · rw [List.length_append]
      exact Nat.le_add_right _ _
    · exact Nat.le_refl _
  · by_cases own : clientId = run.clientId
    · right
      show (buildContext store' w.data.name clientId).version = _
      rw [version_buildContext, own, built.liveProfile_eq sound.versioned]
      exact congrArg some (nextVersion_eq (sound.versioned.counted run.clientId))
    · left
      show (buildContext store' w.data.name clientId).Same _
      rw [built.buildContext_other sound.versioned own]
      exact .refl _

/-- A resolution that keeps the client's live profile keeps what is stored. -/
theorem Sound.resolved {owner directiveId : Uuid} {activate : Bool} {directive : ClientDirective}
    {store' : Store} (sound : Sound digest clientId w)
    (resolved : Resolved owner directiveId activate w.store store' directive)
    (covered : w.snapshot ≠ none → KeepsLive w.store clientId activate directive) :
    Sound digest clientId { w with store := store' } := by
  refine ⟨sound.versioned.resolved resolved, ?_⟩
  intro snapshot cached
  obtain ⟨inputs, recorded, stored⟩ := sound.stored snapshot cached
  have present : w.snapshot ≠ none := fun empty =>
    Option.some_ne_none snapshot (cached.symm.trans empty)
  refine ⟨inputs, recorded, stored.kept rfl ?_ (.inl ?_)⟩
  · have same : versionsOf store'.profiles clientId = versionsOf w.store.profiles clientId := by
      have columns : store'.profiles.map (fun p => (p.clientId, p.version)) =
          w.store.profiles.map fun p => (p.clientId, p.version) := by
        rw [resolved.profiles]
        exact Table.map_modify _ _ fun _ _ => rfl
      rw [versionsOf, columns, versionsOf]
    exact (congrArg List.length same).ge
  · exact resolved.same_buildContext sound.versioned (covered present) w.data.name

/-- A bundle that is generated carries the fingerprint of what it was generated from. -/
theorem Sound.generated (sound : Sound digest clientId w) (computedAt : Timestamp)
    (answered : DashboardResponse ρ) :
    Sound digest clientId (w.generate (w.engineInputs clientId) (w.inputsHash digest clientId)
      computedAt answered).1 := by
  refine ⟨sound.versioned, ?_⟩
  intro snapshot cached
  obtain rfl := Option.some.inj cached
  refine ⟨w.engineInputs clientId, rfl, rfl, rfl, ?_, fun _ => .refl _⟩
  intro version known
  show version ≤ (versionsOf w.store.profiles clientId).length
  have found : (liveProfile w.store clientId).map ClientProfile.version = some version :=
    (version_buildContext ..).symm.trans known
  obtain ⟨profile, live, rfl⟩ := Option.map_eq_some_iff.mp found
  obtain ⟨listed, owner, -⟩ := sound.versioned.liveProfile_iff.mp live
  exact owner ▸ sound.versioned.version_le listed

variable [DecidableEq η]

/-- The step lemma: a covered step keeps the cache sound. -/
theorem next_sound (w : World η ρ) (label : Label ρ) (w' : World η ρ)
    (sound : Sound digest clientId w) (covered : Covered clientId w label)
    (taken : (machine tables kit digest clientId).next w label = some w') :
    Sound digest clientId w' := by
  cases label with
  | change data =>
    obtain rfl := Option.some.inj taken
    refine ⟨sound.versioned, ?_⟩
    intro snapshot cached
    obtain ⟨inputs, recorded, stored⟩ := sound.stored snapshot cached
    have present : w.snapshot ≠ none := fun empty =>
      Option.some_ne_none snapshot (cached.symm.trans empty)
    have name : data.name = w.data.name := covered present
    refine ⟨inputs, recorded, stored.kept name (Nat.le_refl _) (.inl ?_)⟩
    show (buildContext w.store data.name clientId).Same _
    rw [name]
    exact .refl _
  | decide action =>
    obtain rfl := Option.some.inj taken
    refine ⟨sound.versioned, ?_⟩
    intro snapshot cached
    obtain ⟨inputs, recorded, stored⟩ := sound.stored snapshot cached
    exact ⟨inputs, recorded, stored.kept rfl (Nat.le_refl _) (.inl (.refl _))⟩
  | intelligence label =>
    obtain ⟨store', moved, rfl⟩ := Option.map_eq_some_iff.mp taken
    cases label with
    | build run =>
      obtain ⟨synced, built⟩ := built_of_next moved
      exact sound.built built
    | resolve owner directiveId activate =>
      obtain ⟨directive, resolved⟩ := resolved_of_next moved
      exact sound.resolved resolved fun present => covered present directive resolved.found
  | dashboard forceRefresh now computedAt answered =>
    obtain rfl := Option.some.inj taken
    have generated := sound.generated computedAt answered
    unfold World.build
    dsimp only
    split
    · exact generated
    · split
      · exact sound
      · exact generated

/-- What a request is served from the cache is the stored payload with the decisions of now. -/
theorem freshCache_eq_some {now : Timestamp} {inputsHash : η} {response : DashboardResponse ρ}
    (served : w.freshCache now inputsHash = some response) :
    ∃ snapshot, w.snapshot = some snapshot ∧ snapshot.inputsHash = inputsHash ∧
      response = mergeDecisions w.actions snapshot.payload := by
  unfold World.freshCache at served
  split at served
  · cases served
  · next snapshot cached =>
    split at served
    · cases served
    · next fresh =>
      push Not at fresh
      exact ⟨snapshot, cached, fresh.1, (Option.some.inj served).symm⟩

/-- In every state of a history whose steps are covered: when a request without `force_refresh` is
served from the cache, everything the engines and the reviewer read from the database is equal to
what it was when the payload was generated. -/
theorem cache_sound (injective : Function.Injective digest)
    (reached : (machine tables kit digest clientId).Reachable (Covered clientId) w)
    {now : Timestamp} {response : DashboardResponse ρ}
    (served : w.freshCache now (w.inputsHash digest clientId) = some response) :
    ∃ inputs, w.generatedFrom = some inputs ∧ (w.engineInputs clientId).Same inputs := by
  have sound : Sound digest clientId w := by
    apply reached.invariant (Sound digest clientId)
    · rintro w ⟨blank, empty⟩
      refine ⟨.blank blank, fun snapshot cached => ?_⟩
      rw [empty] at cached
      cases cached
    · exact next_sound
  obtain ⟨snapshot, cached, hash, -⟩ := freshCache_eq_some served
  obtain ⟨inputs, recorded, stored⟩ := sound.stored snapshot cached
  have same : ((w.engineInputs clientId).signals, (w.engineInputs clientId).context.version) =
      (inputs.signals, inputs.context.version) :=
    injective (hash.symm.trans stored.hash)
  obtain ⟨signals, version⟩ := Prod.mk.inj same
  exact ⟨inputs, recorded, stored.name.symm, stored.current version.symm, signals⟩

/-- A client about whom only its name is known. -/
def namedClient (name : String) : ClientData :=
  ⟨name, 0, 0, 0, 8, none, none, [], [], [], [], []⟩

/-- The client before its first build. -/
def newClient : World Fingerprinted Unit := ⟨.empty, namedClient "Acme", [], none, none⟩

/-- A bundle without recommendations. -/
def emptyBundle : DashboardResponse Unit := ⟨[], ()⟩

/-- A request to the dashboard. -/
def request : Label Unit := .dashboard false 0 0 emptyBundle

/-- A rule is extracted and approved, and the dashboard is built. -/
def builtOnce : List (Label Unit) :=
  [.intelligence (.build (plainBuild 10 [useStock])), .intelligence (.resolve 1 10 true), request]

/-- The dashboard is built under an approved rule, and served again. -/
theorem cache_sound_served :
    ∃ w response inputs, (machine .ascii .plain id 1).Run (Covered 1) newClient builtOnce w ∧
      w.freshCache 0 (w.inputsHash id 1) = some response ∧
      w.generatedFrom = some inputs ∧ (w.engineInputs 1).Same inputs := by
  obtain ⟨w, response, run, served⟩ : ∃ w response,
      (machine .ascii .plain id 1).Run (Covered 1) newClient builtOnce w ∧
      w.freshCache 0 (w.inputsHash id 1) = some response :=
    ⟨_, _, .cons trivial rfl (.cons (fun present => absurd rfl present) rfl
      (.cons trivial rfl (.nil _))), rfl⟩
  have reached : (machine .ascii .plain id 1).Reachable (Covered 1) w :=
    ⟨newClient, builtOnce, ⟨⟨fun _ => rfl, rfl, rfl, rfl⟩, rfl⟩, run⟩
  obtain ⟨inputs, recorded, same⟩ := cache_sound Function.injective_id reached served
  exact ⟨w, response, inputs, run, served, recorded, same⟩

/-- A history that ends with a bundle served from the cache, although something the engines read is
not what it was. -/
def ServedStale (labels : List (Label Unit)) : Prop :=
  ∃ w response inputs, (machine .ascii .plain id 1).Run Machine.anyStep newClient labels w ∧
    w.freshCache 0 (w.inputsHash id 1) = some response ∧
    w.generatedFrom = some inputs ∧ ¬(w.engineInputs 1).Same inputs

/-- The approved rule is dismissed, or the client renamed, after the dashboard was built. -/
theorem served_stale :
    ServedStale (builtOnce ++ [.intelligence (.resolve 1 10 false)]) ∧
      ServedStale (builtOnce ++ [.change (namedClient "Acme Studio")]) := by
  constructor
  · obtain ⟨w, response, inputs, played, served, recorded, before, after⟩ :
        ∃ w response inputs, (machine .ascii .plain id 1).play Machine.anyStep newClient
            (builtOnce ++ [.intelligence (.resolve 1 10 false)]) = some w ∧
          w.freshCache 0 (w.inputsHash id 1) = some response ∧
          w.generatedFrom = some inputs ∧ inputs.context.directives.length = 1 ∧
          (w.engineInputs 1).context.directives.length = 0 :=
      ⟨_, _, _, rfl, rfl, rfl, rfl, rfl⟩
    refine ⟨w, response, inputs, Machine.run_of_play played, served, recorded, fun same => ?_⟩
    rw [same.context.directives, before] at after
    cases after
  · obtain ⟨w, response, inputs, played, served, recorded, before, after⟩ :
        ∃ w response inputs, (machine .ascii .plain id 1).play Machine.anyStep newClient
            (builtOnce ++ [.change (namedClient "Acme Studio")]) = some w ∧
          w.freshCache 0 (w.inputsHash id 1) = some response ∧
          w.generatedFrom = some inputs ∧ inputs.clientName = "Acme" ∧
          (w.engineInputs 1).clientName = "Acme Studio" :=
      ⟨_, _, _, rfl, rfl, rfl, rfl, rfl⟩
    refine ⟨w, response, inputs, Machine.run_of_play played, served, recorded, fun same => ?_⟩
    rw [same.clientName, before] at after
    exact absurd after (by decide)

end MarketingOS.Dashboard
