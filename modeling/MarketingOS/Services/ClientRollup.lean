import Mathlib.Algebra.BigOperators.Group.List.Defs
import Mathlib.Algebra.Order.Round
import Mathlib.Data.Rat.Floor
import MarketingOS.Base.Machine
import MarketingOS.Repositories.PlatformInsight

/-!
# Client rollups

The transactions that write the daily analytics of one client, statement by statement and under
read committed isolation: a statement sees what is committed and what its own transaction has
written. A statement that would write a cell another open transaction has written waits. The rollup
on the client's row is recomputed inside the writer's transaction, and the columns that differ from
the ones its session holds are sent at its commit.
-/
namespace MarketingOS.ClientRollup

open Analytics (AnalyticsDailyIn dailyValues)

/-- `round(x, 2)`, and what a column of two decimals holds. -/
def hundredths (x : ℚ) : ℚ := (round (x * 100) : ℚ) / 100

/-- A row as `analytics_daily` holds it. -/
def stored (row : AnalyticsDaily) : AnalyticsDaily :=
  { row with
    metrics := { row.metrics with
      spend := hundredths row.metrics.spend
      revenue := hundredths row.metrics.revenue } }

/-- The rollup columns of `clients`. -/
structure Rollup where
  spendTotal : ℚ
  leadsTotal : Int
  cpl : ℚ
deriving DecidableEq

/-- The rows `totals` aggregates. -/
def rowsOf (clientId : Uuid) (rows : List AnalyticsDaily) : List AnalyticsMetrics :=
  (rows.filter fun row => row.clientId = clientId).map AnalyticsDaily.metrics

/-- The spend in `totals`. -/
def spendOf (clientId : Uuid) (rows : List AnalyticsDaily) : ℚ :=
  ((rowsOf clientId rows).map AnalyticsMetrics.spend).sum

/-- The leads in `totals`. -/
def leadsOf (clientId : Uuid) (rows : List AnalyticsDaily) : Int :=
  ((rowsOf clientId rows).map AnalyticsMetrics.leads).sum

/-- What `refresh_client_rollups` sets on the client; `quotient` is `round(spend / leads, 2)`, in
floating point. -/
def refreshClientRollups (quotient : ℚ → Int → ℚ) (clientId : Uuid) (rows : List AnalyticsDaily) :
    Rollup where
  spendTotal := hundredths (spendOf clientId rows)
  leadsTotal := leadsOf clientId rows
  cpl := if leadsOf clientId rows = 0 then 0
    else quotient (spendOf clientId rows) (leadsOf clientId rows)

/-- The unique columns of a row. -/
abbrev Cell : Type := Uuid × Date × SocialPlatform

/-- One cell written and not yet committed. -/
inductive Edit where
  /-- Insert a row, or update the one of its cell. -/
  | upsert (row : AnalyticsDaily)
  | delete (cell : Cell)

/-- The cell an edit writes. -/
def Edit.cell : Edit → Cell
  | .upsert row => AnalyticsDaily.upsert.key row
  | .delete cell => cell

/-- The rows after an edit. -/
def Edit.apply (rows : List AnalyticsDaily) : Edit → List AnalyticsDaily
  | .upsert row => AnalyticsDaily.upsert.one rows row
  | .delete cell => Table.remove AnalyticsDaily.upsert.key cell rows

/-- The rows a transaction sees: those committed, with its own edits. -/
def seen (rows : List AnalyticsDaily) (edits : List Edit) : List AnalyticsDaily :=
  edits.foldl Edit.apply rows

/-- `AnalyticsSource.synthetic.value` -/
def synthetic : String := "synthetic"

/-- The statement of `bulk_upsert`. -/
def bulkUpsert (clientId : Uuid) (source : String) (rows : List (Uuid × AnalyticsDailyIn)) :
    List Edit :=
  let dedup := Dict.ofList (rows.map fun row =>
    ((row.2.date, Enumeration.value row.2.platform), dailyValues clientId source row))
  dedup.values.map fun row => .upsert (stored row)

/-- `DELETE` of the synthetic rows of a client, among the rows a transaction sees. -/
def deleteSynthetic (clientId : Uuid) (rows : List AnalyticsDaily) : List Edit :=
  (rows.filter fun row => row.clientId = clientId ∧ row.source = some synthetic).map fun row =>
    .delete (AnalyticsDaily.upsert.key row)

/-- `_protected_cells` -/
def protectedCells (clientId : Uuid) (rows : List AnalyticsDaily) : List (Date × SocialPlatform) :=
  (rows.filter fun row => row.clientId = clientId ∧ row.source ≠ some synthetic).map fun row =>
    (row.date, row.platform)

/-- The rows `_seed_analytics` keeps. -/
def unprotected (clientId : Uuid) (rows : List AnalyticsDaily)
    (generated : List (Uuid × AnalyticsDailyIn)) : List (Uuid × AnalyticsDailyIn) :=
  generated.filter fun row => (row.2.date, row.2.platform) ∉ protectedCells clientId rows

/-- `INSERT` of generated rows; a cell that is there is an `IntegrityError`. -/
def insertSynthetic (clientId : Uuid) (rows : List AnalyticsDaily)
    (generated : List (Uuid × AnalyticsDailyIn)) : Option (List Edit) :=
  let values := generated.map (dailyValues clientId synthetic)
  if (values.map AnalyticsDaily.upsert.key).Nodup ∧
      ∀ row ∈ values, Table.has AnalyticsDaily.upsert.key rows (AnalyticsDaily.upsert.key row) = false
  then some (values.map fun row => .upsert (stored row))
  else none

/-- A transaction that writes daily analytics. -/
inductive Writer where
  /-- `AnalyticsService.ingest`, for a live ingest, a CSV import, a platform sync and a GHL sync. -/
  | ingest (source : String) (rows : List (Uuid × AnalyticsDailyIn))
  /-- `seed_client`, with the rows it generates. -/
  | seedClient (generated : List (Uuid × AnalyticsDailyIn))
  | purgeClient

/-- How far a transaction has come. `held` is the client's row in its session, once it is read. -/
inductive Stage where
  | idle
  | opened (held : Option Rollup)
  /-- `seed_client` has read the protected cells. -/
  | planned (held : Option Rollup) (kept : List (Uuid × AnalyticsDailyIn))
  /-- `seed_client` has deleted the synthetic rows. -/
  | cleared (held : Option Rollup) (kept : List (Uuid × AnalyticsDailyIn)) (edits : List Edit)
  /-- The facts are written, and the rollup is to be recomputed. -/
  | written (held : Option Rollup) (edits : List Edit)
  /-- The rollup is recomputed in a session that holds an earlier one. -/
  | refreshed (held : Rollup) (edits : List Edit) (computed : Rollup)
  /-- `purge_client` has deleted the synthetic rows. -/
  | purged (edits : List Edit)
  | ended

/-- The cells a transaction has written. -/
def Stage.edits : Stage → List Edit
  | .cleared _ _ edits | .written _ edits | .refreshed _ edits _ | .purged edits => edits
  | _ => []

/-- What is committed of the client, and its transactions. -/
structure World where
  rows : List AnalyticsDaily
  rollup : Rollup
  transactions : List (Writer × Stage)

/-- The world after a transaction has moved. -/
def World.move (w : World) (t : Nat) (writer : Writer) (stage : Stage) : World :=
  { w with transactions := w.transactions.set t (writer, stage) }

/-- Whether none of the cells is written by another open transaction. -/
def World.free (w : World) (t : Nat) (edits : List Edit) : Bool :=
  (List.range w.transactions.length).all fun other =>
    other = t || (w.transactions[other]?.all fun (_, stage) =>
      stage.edits.all fun written => edits.all fun edit => edit.cell ≠ written.cell)

/-- The next statement of a transaction; nothing while it waits for a row. -/
def statement (clientId : Uuid) (w : World) (t : Nat) (writer : Writer) : Stage → Option World
  | .opened held =>
    match writer with
    | .ingest source rows =>
      let edits := bulkUpsert clientId source rows
      if w.free t edits then some (w.move t writer (.written held edits)) else none
    | .seedClient generated =>
      some (w.move t writer (.planned held (unprotected clientId w.rows generated)))
    | .purgeClient =>
      let edits := deleteSynthetic clientId w.rows
      if w.free t edits then some (w.move t writer (.purged edits)) else none
  | .planned held kept =>
    let edits := deleteSynthetic clientId w.rows
    if w.free t edits then some (w.move t writer (.cleared held kept edits)) else none
  | .cleared held kept edits =>
    match insertSynthetic clientId (seen w.rows edits) kept with
    | none => some (w.move t writer .ended)
    | some inserts =>
      if w.free t inserts then some (w.move t writer (.written held (edits ++ inserts))) else none
  | _ => none

/-- A column after a commit: it is sent when it differs from what the session held. -/
def changed {α : Type} [DecidableEq α] (held computed committed : α) : α :=
  if computed = held then committed else computed

/-- The rollup after the commit of a session that held one and computed another. -/
def update (held computed committed : Rollup) : Rollup where
  spendTotal := changed held.spendTotal computed.spendTotal committed.spendTotal
  leadsTotal := changed held.leadsTotal computed.leadsTotal committed.leadsTotal
  cpl := changed held.cpl computed.cpl committed.cpl

/-- One step of one transaction. -/
inductive Label where
  /-- A session begins, and may read the client's row. -/
  | begin (t : Nat) (reads : Bool)
  | statement (t : Nat)
  /-- `refresh_client_rollups` -/
  | refresh (t : Nat)
  | commit (t : Nat)
  | rollback (t : Nat)

/-- The step function. -/
def next (quotient : ℚ → Int → ℚ) (clientId : Uuid) (w : World) : Label → Option World
  | .begin t reads =>
    match w.transactions[t]? with
    | some (writer, .idle) =>
      some (w.move t writer (.opened (if reads then some w.rollup else none)))
    | _ => none
  | .statement t =>
    match w.transactions[t]? with
    | some (writer, stage) => statement clientId w t writer stage
    | none => none
  | .refresh t =>
    match w.transactions[t]? with
    | some (writer, .written held edits) =>
      some (w.move t writer (.refreshed (held.getD w.rollup) edits
        (refreshClientRollups quotient clientId (seen w.rows edits))))
    | _ => none
  | .commit t =>
    match w.transactions[t]? with
    | some (writer, .refreshed held edits computed) =>
      some { w.move t writer .ended with
        rows := seen w.rows edits
        rollup := update held computed w.rollup }
    | some (writer, .purged edits) =>
      some { w.move t writer .ended with rows := seen w.rows edits }
    | _ => none
  | .rollback t =>
    match w.transactions[t]? with
    | some (_, .idle) | some (_, .ended) | none => none
    | some (writer, _) => some (w.move t writer .ended)

/-- The sums of the facts, and their quotient. -/
structure Agrees (quotient : ℚ → Int → ℚ) (clientId : Uuid) (rows : List AnalyticsDaily)
    (rollup : Rollup) : Prop where
  spend : rollup.spendTotal = spendOf clientId rows
  leads : rollup.leadsTotal = leadsOf clientId rows
  cpl : rollup.cpl = if leadsOf clientId rows = 0 then 0
    else quotient (spendOf clientId rows) (leadsOf clientId rows)

/-- The transactions of a client whose rollup agrees with its rows, before any of them has begun. -/
def machine (quotient : ℚ → Int → ℚ) (clientId : Uuid) : Machine World Label where
  start w := (∀ row ∈ w.rows, stored row = row) ∧ Agrees quotient clientId w.rows w.rollup ∧
    ∀ entry ∈ w.transactions, entry.2 = .idle
  next := next quotient clientId

end MarketingOS.ClientRollup
