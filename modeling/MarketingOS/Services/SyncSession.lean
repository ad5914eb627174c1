import MarketingOS.Base.DbSession
import MarketingOS.Services.ClientRollup
import MarketingOS.Services.Integration

/-!
# Syncs in one session

A sync statement by statement, in a session that other syncs use before and after it. The facts are
ingested without a commit of their own; the insights or breakdowns that follow commit them with
theirs, and what stops them is swallowed; the outcome is written to the row of the integration last.
-/
namespace MarketingOS.SyncSession

open IntegrationService
open Analytics (AnalyticsDailyIn)
open ClientRollup (Rollup bulkUpsert refreshClientRollups seen)

/-- What the syncs of a client write. The insights and breakdowns are of any type. -/
structure SyncTables (ι : Type) where
  integrations : List Integration
  facts : List AnalyticsDaily
  /-- The rollup columns of the clients that are there. -/
  rollups : Uuid → Option Rollup
  insights : ι

/-- The statements of a sync, in the order they are sent. -/
inductive Stage where
  /-- `get` -/
  | load
  /-- The flush of a renewed token. -/
  | renewal
  /-- The row, read again after that commit. -/
  | reload
  /-- The flush that records a failed pull. -/
  | failure
  /-- `ingest` -/
  | ingest
  /-- `_sync_platform_insights` and `_sync_analytics_breakdowns`, up to their commit. -/
  | insights
  /-- The flush of that commit. -/
  | insightsCommit
  /-- The flush that records the sync. -/
  | outcome
  /-- `refresh` -/
  | refresh
deriving DecidableEq

/-- What the outside does during one sync. -/
structure Run (ι : Type) where
  attempt : Attempt
  /-- The fetched days, with identifiers for those that are new. -/
  rows : List (Uuid × Date × AnalyticsMetrics)
  /-- The statements of the insights or breakdowns. -/
  insights : List (ι → ι)
  /-- They end in an exception that is no statement's. -/
  insightsRaise : Bool
  /-- The text of a statement that fails. -/
  faults : Stage → Option String
  /-- The text of a statement that is refused. -/
  refusals : Stage → SessionStatus → String

namespace Run

variable {ι : Type} (r : Run ι)

/-- A statement that fails. -/
def fault (stage : Stage) : Option SyncError := (r.faults stage).map .other

/-- A statement that is refused. -/
def refusal (stage : Stage) (status : SessionStatus) : SyncError :=
  .other (r.refusals stage status)

end Run

/-- The platform whose facts an integration writes. -/
def platform : IntegrationKey → SocialPlatform
  | .metaAds => .facebook
  | .linkedin => .linkedin
  | .googleAds => .google
  | .googleLsa => .googleLsa
  | .ga4 => .ga4
  | .searchConsole => .seo
  | .ghl => .ghl

section Writes

variable {ι : Type}

/-- Rewrite the row of an integration. -/
def onIntegration (name : Uuid × IntegrationKey) (change : Integration → Integration)
    (t : SyncTables ι) : SyncTables ι :=
  { t with integrations := Table.modify Integration.name name change t.integrations }

/-- A renewed token, on the row. -/
def holdToken (held row : Integration) : Integration :=
  { row with
    accessTokenEncrypted := held.accessTokenEncrypted
    tokenExpiresAt := held.tokenExpiresAt }

/-- A failed pull, on the row. -/
def holdFailure (e : SyncError) (row : Integration) : Integration :=
  { row with
    status := failureStatus e
    lastError := some (clip 1000 e.message) }

/-- A sync, on the row. -/
def holdOutcome (now : Timestamp) (row : Integration) : Integration :=
  { row with
    status := .connected
    lastSyncAt := some now
    lastError := none }

/-- The days of a pull, as the schema takes them. -/
def daysIn (key : IntegrationKey) (rows : List (Uuid × Date × AnalyticsMetrics)) :
    List (Uuid × AnalyticsDailyIn) :=
  rows.map fun row => (row.1, ⟨row.2.1, platform key, row.2.2⟩)

/-- The upsert of `ingest`. -/
def ingest (clientId : Uuid) (key : IntegrationKey)
    (rows : List (Uuid × Date × AnalyticsMetrics)) (t : SyncTables ι) : SyncTables ι :=
  { t with facts := seen t.facts (bulkUpsert clientId "connector" (daysIn key rows)) }

/-- The rollup of a client that is there. -/
def computed (quotient : ℚ → Int → ℚ) (clientId : Uuid) (t : SyncTables ι) : Option Rollup :=
  (t.rollups clientId).map fun _ => refreshClientRollups quotient clientId t.facts

/-- The rollup of a client, flushed. -/
def setRollup (clientId : Uuid) (rollup : Option Rollup) (t : SyncTables ι) : SyncTables ι :=
  { t with rollups := fun other => if other = clientId then rollup else t.rollups other }

/-- The insights or breakdowns, written. -/
def writeInsights (writes : List (ι → ι)) (t : SyncTables ι) : SyncTables ι :=
  { t with insights := writes.foldl (fun insights write => write insights) t.insights }

end Writes

section Sync

variable {ι : Type} (quotient : ℚ → Int → ℚ) (r : Run ι)

/-- The guards of a sync. -/
def refused (i : Integration) : Option String :=
  if i.status ≠ .connected ∨ !i.hasToken then
    some "Integration is not connected — run OAuth first."
  else if (i.key ∈ metaKeys ∨ i.key ∈ googleKeys) ∧ !i.hasAccount then
    some "No account is bound yet — finish account selection before syncing."
  else none

/-- The token of a sync. -/
def accessToken (a : Attempt) (i : Integration) : Except SyncError Integration :=
  if i.key ∈ metaKeys then metaAccessToken a i else refreshedAccessToken a i

/-- A renewed token is committed at once, and `login_customer_id` is read after it. -/
def storeToken (i held : Integration) (s : DbSession (SyncTables ι)) :
    Except SyncError Unit × DbSession (SyncTables ι) :=
  if held = i then (.ok (), s)
  else
    match s.commit (r.refusal .renewal) (r.fault .renewal) true
      (onIntegration i.name (holdToken held)) with
    | (.error e, s) => (.error e, s)
    | (.ok (), s) =>
      if i.key = .googleAds then s.execute (r.refusal .reload) (r.fault .reload) id
      else (.ok (), s)

/-- `_fetch_insights` -/
def fetch (i : Integration) (s : DbSession (SyncTables ι)) :
    Except SyncError Integration × DbSession (SyncTables ι) :=
  match accessToken r.attempt i with
  | .error e => (.error e, s)
  | .ok held =>
    match storeToken r i held s with
    | (.error e, s) => (.error e, s)
    | (.ok (), s) => (r.attempt.fetched.map fun _ => held, s)

/-- A pull that raised is recorded and raised again; the status it leaves is never the one it
found. -/
def recordFailure (i : Integration) (e : SyncError) (s : DbSession (SyncTables ι)) :
    Except SyncError Unit × DbSession (SyncTables ι) :=
  match s.commit (r.refusal .failure) (r.fault .failure) true
    (onIntegration i.name (holdFailure e)) with
  | (.error e, s) => (.error e, s)
  | (.ok (), s) => (.error e, s)

/-- `_sync_platform_insights` and `_sync_analytics_breakdowns` — LinkedIn has neither. -/
def syncInsights (i : Integration) (rollup : Option Rollup) (s : DbSession (SyncTables ι)) :
    DbSession (SyncTables ι) :=
  if i.key ∈ linkedinKeys then s
  else
    match s.execute (r.refusal .insights) (r.fault .insights) (writeInsights r.insights) with
    | (.error _, s) => s
    | (.ok (), s) =>
      if r.insightsRaise then s
      else (s.commit (r.refusal .insightsCommit) (r.fault .insightsCommit)
        (s.working.rollups i.clientId ≠ rollup) (setRollup i.clientId rollup)).2

/-- The end of a sync: the outcome is flushed with what else is left, and read back. -/
def recordOutcome (i : Integration) (rollup : Option Rollup) (s : DbSession (SyncTables ι)) :
    Except SyncError Unit × DbSession (SyncTables ι) :=
  match s.commit (r.refusal .outcome) (r.fault .outcome)
    (holdOutcome r.attempt.now i ≠ i ∨ s.working.rollups i.clientId ≠ rollup)
    (setRollup i.clientId rollup ∘ onIntegration i.name (holdOutcome r.attempt.now)) with
  | (.error e, s) => (.error e, s)
  | (.ok (), s) => s.execute (r.refusal .refresh) (r.fault .refresh) id

/-- A pull that was accepted is stored. -/
def store (i : Integration) (s : DbSession (SyncTables ι)) :
    Except SyncError Unit × DbSession (SyncTables ι) :=
  match s.execute (r.refusal .ingest) (r.fault .ingest) (ingest i.clientId i.key r.rows) with
  | (.error e, s) => (.error e, s)
  | (.ok (), s) =>
    let rollup := computed quotient i.clientId s.working
    recordOutcome r i rollup (syncInsights r i rollup s)

/-- A sync of the row that was loaded. -/
def syncLoaded (i : Integration) (s : DbSession (SyncTables ι)) :
    Except SyncError Unit × DbSession (SyncTables ι) :=
  match refused i with
  | some message => (.error (.app message), s)
  | none =>
    match fetch r i s with
    | (.error e, s) => recordFailure r i e s
    | (.ok held, s) =>
      match r.attempt.stored with
      | .error e => (.error e, s)
      | .ok () => store quotient r held s

/-- `sync` -/
def sync (clientId : Uuid) (key : IntegrationKey) (s : DbSession (SyncTables ι)) :
    Except SyncError Unit × DbSession (SyncTables ι) :=
  if key ∉ realKeys then (.error (.app (notReal key)), s)
  else
    match s.execute (r.refusal .load) (r.fault .load) id with
    | (.error e, s) => (.error e, s)
    | (.ok (), s) =>
      match Table.get Integration.name s.working.integrations (clientId, key) with
      | none => (.error (.app "Integration not configured."), s)
      | some i => syncLoaded quotient r i s

end Sync

/-! ## The sweep -/

/-- `SyncSweepRow`, of one client. -/
structure SyncSweepRow where
  key : String
  ok : Bool
  error : Option String
deriving DecidableEq

/-- What the sweep says of a sync. -/
def sweepRow (key : IntegrationKey) : Except SyncError Unit → SyncSweepRow
  | .ok () => ⟨Enumeration.value key, true, none⟩
  | .error e => ⟨Enumeration.value key, false, some (clip 300 e.message)⟩

section Sweep

variable {ι : Type} (quotient : ℚ → Int → ℚ) (clientId : Uuid) (runs : IntegrationKey → Run ι)

/-- The integrations of a client, synced one after another in one session. -/
def sweepKeys : List IntegrationKey → DbSession (SyncTables ι) →
    List SyncSweepRow × DbSession (SyncTables ι)
  | [], s => ([], s)
  | key :: keys, s =>
    let synced := sync quotient (runs key) clientId key s
    let rest := sweepKeys keys synced.2
    (sweepRow key synced.1 :: rest.1, rest.2)

/-- `_one` of `sync_integrations_sweep`: what is not committed when the session closes is gone. -/
def sweepClient (t : SyncTables ι) : List SyncSweepRow × SyncTables ι :=
  let swept := sweepKeys quotient clientId runs (connectedKeys t.integrations clientId)
    (DbSession.opened t)
  (swept.1, swept.2.committed)

end Sweep

end MarketingOS.SyncSession
