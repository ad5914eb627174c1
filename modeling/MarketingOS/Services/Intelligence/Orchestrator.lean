import Mathlib.Data.Prod.Lex
import MarketingOS.Base.Transaction
import MarketingOS.Services.Intelligence.Reconcile

/-!
# Intelligence orchestrator

The stages of a build on one session: ingest, embed, summary, directives, profile, directive rows,
conflict links, and the flip of the version pointer. Nothing is committed before the last one. What
the agents return and the identifiers that are drawn come with the build.
-/
namespace MarketingOS.Intelligence

/-- The tables of the intelligence builds. -/
structure Store where
  /-- `clients.current_profile_version` -/
  current : Uuid → Option Nat
  profiles : List ClientProfile
  directives : List ClientDirective
  sources : List KnowledgeSource

/-- `SummaryResult` of the summary agent. -/
structure SummaryResult where
  summaryMd : Option String
  profile : Option Json
  model : Option String

/-- Everything a build gets from outside the database. -/
structure BuildRun where
  inputs : ClientInputs
  full : Bool
  reachable : String → Bool
  newId : Identity → Uuid
  summary : SummaryResult
  /-- What `DirectivesAgent.extract` returns. -/
  extracted : List Directive
  profileId : Uuid
  directiveId : Nat → Uuid
  createdBy : Option Uuid
  now : Timestamp

/-- The client of a build. -/
def BuildRun.clientId (run : BuildRun) : Uuid := run.inputs.client.id

/-! ## Repositories -/

/-- `get_version` -/
def getVersion (profiles : List ClientProfile) (clientId : Uuid) (version : Nat) :
    Option ClientProfile :=
  profiles.find? fun p => decide (p.clientId = clientId ∧ p.version = version)

/-- `next_version` -/
def nextVersion (profiles : List ClientProfile) (clientId : Uuid) : Nat :=
  ((profiles.filter fun p => p.clientId = clientId).map ClientProfile.version).foldl max 0 + 1

/-- `active_for_profile` — all directives of a profile, by rank and then by age. -/
def activeForProfile (directives : List ClientDirective) (profileId : Uuid) :
    List ClientDirective :=
  StableSort.sortBy (fun d => toLex (d.rank, d.createdAt))
    (directives.filter fun d => d.profileId = profileId)

/-- `_directive_key` of a stored directive. -/
def ClientDirective.key (tables : TextTables) (d : ClientDirective) : DirectiveKey :=
  directiveKey tables d.type d.text

/-- The flags a stored directive carries: `d.capability_flags or {}`. -/
def ClientDirective.flags (d : ClientDirective) : Flags := d.capabilityFlags.getD .empty

/-- The profile the pointer of a client names. -/
def liveProfile (store : Store) (clientId : Uuid) : Option ClientProfile :=
  (store.current clientId).bind (getVersion store.profiles clientId)

/-- `_approved_directive_keys` — the keys of the active directives of the live profile. -/
def approvedDirectiveKeys (tables : TextTables) (store : Store) (clientId : Uuid) :
    List DirectiveKey :=
  match liveProfile store clientId with
  | none => []
  | some profile =>
    ((activeForProfile store.directives profile.id).filter fun d => d.status = .active).map
      (ClientDirective.key tables)

/-! ## Rows of a build -/

/-- `_source_key` -/
def sourceKey (src : KnowledgeSource) : String :=
  match src.refKind, src.refId with
  | some "document", some id => s!"document:{Uuid.print id}"
  | _, _ => "field:" ++ src.refKey.getD "None"

/-- The directives of a build after reconciliation and the review gate. -/
def gated (tables : TextTables) (store : Store) (run : BuildRun) : List Reconciled :=
  gateNewRestrictions tables (approvedDirectiveKeys tables store run.clientId)
    (reconcile tables run.extracted)

/-- The profile row of a build. -/
def newProfile (run : BuildRun) (version : Nat) (reconciled : List Reconciled)
    (synced : List SyncedSource) : ClientProfile where
  id := run.profileId
  clientId := run.clientId
  version := version
  status := .ready
  summaryMd := run.summary.summaryMd
  profile := run.summary.profile
  capabilityFlags := mergeCapabilityFlags reconciled
  model := run.summary.model
  sourceHashes :=
    Dict.ofList (synced.map fun item => (sourceKey item.source, item.source.contentHash))
  createdBy := run.createdBy

/-- The directive row of a reconciled directive, in the first pass. -/
def newDirective (run : BuildRun) (synced : List SyncedSource) (position : Nat) (r : Reconciled) :
    ClientDirective where
  id := run.directiveId position
  profileId := run.profileId
  clientId := run.clientId
  type := r.directive.type
  category := r.directive.category
  text := r.directive.text
  tier := r.directive.tier
  rank := r.directive.rank
  confidence := r.directive.confidence
  status := r.status
  capabilityFlags :=
    if r.directive.capabilityFlags.entries = [] then none else some r.directive.capabilityFlags
  sourceId := r.directive.sourceKey.bind
    (Dict.ofList (synced.map fun item => (sourceKey item.source, item.source.id))).get
  conflictsWithId := none
  createdAt := run.now

/-- The second pass: point a conflicted row at its sibling. -/
def link (created : List ClientDirective) (r : Reconciled) (row : ClientDirective) :
    ClientDirective :=
  match r.conflictsWithIndex with
  | none => row
  | some index => { row with conflictsWithId := created[index]?.map ClientDirective.id }

/-! ## Stages -/

/-- The session of a build. -/
structure Draft where
  store : Store
  /-- The sources the build has not returned. -/
  rest : List KnowledgeSource
  synced : List SyncedSource
  reconciled : List Reconciled
  version : Nat
  created : List ClientDirective

/-- The session as a build opens it. -/
def Draft.start (store : Store) : Draft := ⟨store, [], [], [], 0, []⟩

/-- Stage 1: ingest the sources. -/
def ingestStage (kit : Toolkit) (run : BuildRun) (d : Draft) : Option Draft :=
  let (hidden, synced) := sync kit run.full run.reachable run.newId run.inputs
    (d.store.sources.filter fun row => row.clientId = run.clientId)
  let rest := d.store.sources.filter (fun row => row.clientId ≠ run.clientId) ++ hidden
  some { d with
    rest
    synced
    store := { d.store with sources := rest ++ synced.map SyncedSource.source } }

/-- Stage 2: chunk and embed what changed. -/
def embedStage (kit : Toolkit) (d : Draft) : Option Draft :=
  let synced := d.synced.map fun item => { item with source := item.embedded kit }
  some { d with
    synced
    store := { d.store with sources := d.rest ++ synced.map SyncedSource.source } }

/-- Stages 3 to 5: corpus, summary and directives, which write nothing. -/
def agentStage (d : Draft) : Option Draft := some d

/-- Stages 6 and 7: reconcile, gate, and insert the new profile version. -/
def profileStage (tables : TextTables) (run : BuildRun) (d : Draft) : Option Draft :=
  let reconciled := gated tables d.store run
  let version := nextVersion d.store.profiles run.clientId
  if Table.has ClientProfile.id d.store.profiles run.profileId ∨
      (getVersion d.store.profiles run.clientId version).isSome then none
  else
    some { d with
      reconciled
      version
      store := { d.store with
        profiles := d.store.profiles ++ [newProfile run version reconciled d.synced] } }

/-- Stage 8, first pass: insert the directive rows. -/
def directivesStage (run : BuildRun) (d : Draft) : Option Draft :=
  let created := d.reconciled.mapIdx (newDirective run d.synced)
  if ((d.store.directives ++ created).map ClientDirective.id).Nodup then
    some { d with
      created
      store := { d.store with directives := d.store.directives ++ created } }
  else none

/-- Stage 8, second pass: link the conflicts. -/
def linkStage (d : Draft) : Option Draft :=
  let before := d.store.directives.take (d.store.directives.length - d.created.length)
  some { d with
    store := { d.store with
      directives := before ++ List.zipWith (link d.created) d.reconciled d.created } }

/-- The profiles after the live one of a client is superseded by a new one. -/
def supersedePrevious (store : Store) (clientId profileId : Uuid) : List ClientProfile :=
  match liveProfile store clientId with
  | none => store.profiles
  | some prev =>
    if prev.id ≠ profileId then
      Table.modify ClientProfile.id prev.id (fun p => { p with status := .superseded })
        store.profiles
    else store.profiles

/-- Stage 9: supersede the previous version and flip the pointer. -/
def flipStage (run : BuildRun) (d : Draft) : Option Draft :=
  some { d with
    store := { d.store with
      profiles := supersedePrevious d.store run.clientId run.profileId
      current := fun client =>
        if client = run.clientId then some d.version else d.store.current client } }

/-- The stages of `build`, in order. -/
def buildStages (tables : TextTables) (kit : Toolkit) (run : BuildRun) :
    List (Draft → Option Draft) :=
  [ingestStage kit run, embedStage kit, agentStage, profileStage tables run, directivesStage run,
    linkStage, flipStage run]

end MarketingOS.Intelligence
