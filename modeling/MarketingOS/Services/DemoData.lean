import MarketingOS.Models.Days
import MarketingOS.Services.ClientRollup

/-!
# Demo data

The synthetic daily facts of a client, and how they are put into the table beside measured ones.
The generator and the floating-point numbers it draws are a parameter: which cells are generated
does not depend on them. A row of the table carries its creation time, which the server sets.
-/
namespace MarketingOS.DemoData

open Analytics (AnalyticsDailyIn dailyValues)
open ClientRollup (Cell synthetic stored protectedCells)

/-! ## Generated rows -/

/-- `_Profile` — `cpc = 0` is an organic channel. -/
structure Profile where
  platform : SocialPlatform
  impressions : Int
  ctr : ℚ
  cvr : ℚ
  cpc : ℚ
  aov : ℚ

/-- `_PROFILES` -/
def profiles : List Profile := [
  ⟨.google, 4200, 3.4, 3.8, 2.35, 280⟩,
  ⟨.facebook, 6800, 1.9, 2.6, 1.15, 180⟩,
  ⟨.linkedin, 1400, 0.8, 2.4, 5.40, 900⟩,
  ⟨.ga4, 3100, 8.5, 2.2, 0, 150⟩,
  ⟨.seo, 2400, 5.2, 1.9, 0, 165⟩]

/-- Floating-point numbers, and the generator `random.Random`. -/
structure Numbers (F σ : Type) where
  /-- A number written in the source, or an integer among floats. -/
  float : ℚ → F
  add : F → F → F
  sub : F → F → F
  mul : F → F → F
  div : F → F → F
  less : F → F → Bool
  /-- `int(x)` -/
  int : F → Int
  /-- `round(x, 2)` -/
  round : F → ℚ
  /-- `random.Random(slug)` -/
  seeded : String → σ
  /-- `random()` -/
  random : σ → F × σ

variable {F σ : Type} (n : Numbers F σ)

/-- A draw of the generator; nothing stands for an exception. -/
abbrev Draw (σ : Type) : Type → Type := StateT σ Option

/-- `rnd.random()` -/
def random : Draw σ F := fun state => some (n.random state)

/-- `rnd.uniform(low, high)` -/
def uniform (low high : ℚ) : Draw σ F := do
  let x ← random n
  return n.add (n.float low) (n.mul (n.sub (n.float high) (n.float low)) x)

/-- `date.weekday()` -/
def weekday (date : Date) : Nat := (date.toordinal + 6) % 7

/-- `_day_factor` -/
def dayFactor (day : Date) (index total : Int) (paid : Bool) : Draw σ F := do
  let weekend := weekday day ≥ 5
  let dip := n.float (if weekend then (if paid then 0.72 else 0.86) else 1)
  let growth := n.add (n.float 1) (n.mul (n.float 0.25) (n.div (n.float index) (n.float total)))
  return n.mul (n.mul dip growth) (← uniform n 0.85 1.15)

/-- `_quantize` -/
def quantize (value : F) : Draw σ Int := do
  let whole := n.int value
  let x ← random n
  return whole + if n.less x (n.sub value (n.float whole)) then 1 else 0

/-- `AnalyticsDailyIn(...)` — no number is negative. -/
def analyticsDailyIn (date : Date) (platform : SocialPlatform) (metrics : AnalyticsMetrics) :
    Option AnalyticsDailyIn :=
  if 0 ≤ metrics.impressions ∧ 0 ≤ metrics.clicks ∧ 0 ≤ metrics.conversions ∧
      0 ≤ metrics.leads ∧ 0 ≤ metrics.spend ∧ 0 ≤ metrics.revenue
  then some ⟨date, platform, metrics⟩
  else none

/-- One day of one platform, in the inner loop of `rows_for_client`. -/
def dailyRow (profile : Profile) (scale : F) (days : Int) (today : Date) (i : Nat) :
    Draw σ AnalyticsDailyIn := do
  let day ← today.plusDays (-(days - 1 - i))
  let factor ← dayFactor n day i days (0 < profile.cpc)
  let impressions := max 0 (n.int (n.mul (n.mul (n.float profile.impressions) scale) factor))
  let clicks ← quantize n (n.mul
    (n.div (n.mul (n.float impressions) (n.float profile.ctr)) (n.float 100))
    (← uniform n 0.9 1.1))
  let conversions ← quantize n (n.mul
    (n.div (n.mul (n.float clicks) (n.float profile.cvr)) (n.float 100))
    (← uniform n 0.85 1.15))
  -- Leads run a little ahead of conversions.
  let leads := conversions + (← quantize n (n.mul (n.float conversions) (← uniform n 0.15 0.5)))
  analyticsDailyIn day profile.platform {
    impressions := impressions
    clicks := clicks
    conversions := conversions
    leads := leads
    spend := n.round (n.mul (n.float clicks) (n.float profile.cpc))
    revenue := n.round (n.mul (n.mul (n.float conversions) (n.float profile.aov))
      (← uniform n 0.8 1.25)) }

/-- The days of one platform, in the outer loop of `rows_for_client`. -/
def platformRows (days : Int) (today : Date) (profile : Profile) :
    Draw σ (List AnalyticsDailyIn) := do
  let scale ← uniform n 0.7 1.4
  (List.range days.toNat).mapM (dailyRow n profile scale days today)

/-- `rows_for_client` — nothing stands for a day before the calendar. -/
def rowsForClient (slug : String) (days : Int) (today : Date) : Option (List AnalyticsDailyIn) :=
  ((profiles.mapM (platformRows n days today)).run' (n.seeded slug)).map List.flatten

/-! ## The table -/

/-- A row of `analytics_daily` with its `created_at`. -/
structure DatedRow where
  row : AnalyticsDaily
  createdAt : Timestamp
deriving DecidableEq

/-- The unique columns of a row. -/
def DatedRow.cell (entry : DatedRow) : Cell := AnalyticsDaily.upsert.key entry.row

/-- The filter of both deletions. -/
def DatedRow.synthetic (clientId : Uuid) (entry : DatedRow) : Bool :=
  entry.row.clientId = clientId ∧ entry.row.source = some ClientRollup.synthetic

/-- `INSERT` of rows; nothing stands for an `IntegrityError`. -/
def insertRows (values table : List DatedRow) : Option (List DatedRow) :=
  if ((table ++ values).map DatedRow.cell).Nodup then some (table ++ values) else none

/-- The row inserted for a generated one; the figures are far inside the ranges of their
columns. -/
def seededRow (clientId : Uuid) (now : Timestamp) (id : Uuid) (row : AnalyticsDailyIn) :
    DatedRow where
  row := stored (dailyValues clientId synthetic (id, row))
  createdAt := now

/-- `_seed_analytics` — the table, and how many rows were written and skipped. `ids` are the drawn
identifiers and `now` is the time of the transaction. -/
def seedAnalytics (clientId : Uuid) (slug : String) (days : Int) (today : Date)
    (ids : Nat → Uuid) (now : Timestamp) (table : List DatedRow) :
    Option (List DatedRow × Nat × Nat) := do
  let rows ← rowsForClient n slug days today
  let held := protectedCells clientId (table.map DatedRow.row)
  let kept := if held.isEmpty then rows
    else rows.filter fun row => !held.contains (row.date, row.platform)
  let cleared := table.filter fun entry => !entry.synthetic clientId
  let values := kept.zipIdx.map fun entry => seededRow clientId now (ids entry.2) entry.1
  let seeded ← if kept.isEmpty then some cleared else insertRows values cleared
  return (seeded, kept.length, rows.length - kept.length)

/-- `purge_client` — the table, and how many rows were removed. -/
def purgeClient (clientId : Uuid) (table : List DatedRow) : List DatedRow × Nat :=
  (table.filter fun entry => !entry.synthetic clientId,
    (table.filter fun entry => entry.synthetic clientId).length)

end MarketingOS.DemoData
