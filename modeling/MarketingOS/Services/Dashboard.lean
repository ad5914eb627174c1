import Mathlib.Data.List.MinMax
import MarketingOS.Models.Dashboard
import MarketingOS.Services.Intelligence.Context
import MarketingOS.Services.Intelligence.Service

/-!
# Dashboard service

The signals and the context are assembled, the bundle of the engines is served from the cache while
their fingerprint is that of the stored bundle, and generated anew otherwise. What the engines and
the reviewer answer comes with the request. Floating-point numbers are exact.
-/
namespace MarketingOS.Dashboard

open Intelligence (Store ClientContext buildContext roundHalfEven)

/-! ## Signals -/

/-- `round(x, digits)` -/
def roundTo (digits : Nat) (x : ℚ) : ℚ := roundHalfEven (x * 10 ^ digits) / 10 ^ digits

/-- `_avg` -/
def avg (values : List ℚ) : Option ℚ :=
  if values = [] then none else some (values.sum / values.length)

/-- One metric of `_goal_metrics`; nothing without a target or without enough actual data. -/
def goalMetric (label : String) (digits : Nat) (higherIsBetter : Bool) (unit : String)
    (target : Option ℚ) (measured : Bool) (actual : ℚ) : Option GoalMetric :=
  match target with
  | none => none
  | some target =>
    if measured then
      some {
        label
        target := roundTo digits target
        actual := roundTo digits actual
        higherIsBetter
        onTrack := if higherIsBetter then target ≤ actual else actual ≤ target
        unit }
    else none

/-- `_goal_metrics` -/
def goalMetrics (campaigns : List Campaign) : List GoalMetric :=
  let impressions := (campaigns.map Campaign.impressions).sum
  let clicks := (campaigns.map Campaign.clicks).sum
  let conversions := (campaigns.map Campaign.conversions).sum
  let leads := (campaigns.map Campaign.leads).sum
  let spend := (campaigns.map Campaign.spend).sum
  [goalMetric "Cost per lead vs target" 2 false "$" (avg (campaigns.filterMap Campaign.targetCpl))
      (0 < leads) (spend / leads),
    goalMetric "Click-through rate vs target" 3 true "%"
      (avg (campaigns.filterMap Campaign.targetCtr)) (0 < impressions)
      ((clicks : ℚ) / impressions * 100),
    goalMetric "Conversion rate vs target" 3 true "%"
      (avg (campaigns.filterMap Campaign.targetConversionRate)) (0 < clicks)
      ((conversions : ℚ) / clicks * 100)].reduceOption

/-- The campaigns `_rank_by_cpl` ranks, with their cost per lead. -/
def scored (campaigns : List Campaign) : List (String × ℚ) :=
  (campaigns.filter fun c => c.leads ≠ 0 ∧ 0 < c.spend).map fun c => (c.name, c.spend / c.leads)

/-- `_texts` -/
def texts (entries : List ComplianceEntry) (kind : ComplianceKind) : List String :=
  (entries.filter fun e => e.kind = kind ∧ e.isActive).map ComplianceEntry.text

/-- `_signals` -/
def signals (data : ClientData) (currentProfileVersion : Option Nat) : DashboardSignals :=
  let connected := data.integrations.countP fun status => status = .connected
  { spend := data.spendTotal
    leads := data.leadsTotal
    cpl := data.cpl
    connectedIntegrations := connected
    pendingIntegrations := data.integrations.length - connected
    pendingApprovals := data.events.countP fun status => status = .pending
    onboardingCompleted := 8 ≤ data.onboardingStep
    hasProfile := currentProfileVersion.isSome
    bannedWords := texts data.complianceEntries .banned
    requiredPhrases := texts data.complianceEntries .required
    rules := texts data.complianceEntries .rule
    platforms := data.platforms
    goals := data.goals
    brandVoice := data.brandVoice
    activeCampaigns := data.campaigns.countP fun c => c.status = "active"
    goalMetrics := goalMetrics data.campaigns
    bestCampaign := (scored data.campaigns).argmin Prod.snd
    worstCampaign := (scored data.campaigns).argmax Prod.snd }

/-! ## Decisions -/

/-- The first of the latest decisions. -/
def newest : List RecommendationAction → Option RecommendationAction
  | [] => none
  | action :: rest =>
    match newest rest with
    | none => some action
    | some other => if action.createdAt < other.createdAt then some other else some action

/-- The latest decision on a recommendation, as `latest_by_rec_key` maps it. -/
def latestDecision (actions : List RecommendationAction) (recKey : String) :
    Option RecommendationAction :=
  newest (actions.filter fun action => action.recKey = recKey)

variable {η ρ : Type}

/-- `_merge_decisions` -/
def mergeDecisions (actions : List RecommendationAction) (response : DashboardResponse ρ) :
    DashboardResponse ρ :=
  { response with
    recommendations := response.recommendations.map fun rec =>
      match latestDecision actions rec.id with
      | none => rec
      | some action =>
        { rec with
          decision :=
            some ⟨action.decision, action.reason, action.decidedBy, action.createdAt⟩ } }

/-! ## The cache -/

/-- What the engines and the reviewer read from the database. -/
structure EngineInputs where
  clientName : String
  context : ClientContext
  signals : DashboardSignals
deriving DecidableEq

/-- What `_hash_inputs` digests: the signals and the profile version. -/
abbrev Fingerprinted : Type := DashboardSignals × Option Nat

/-- The tables the dashboard of one client reads and writes. -/
structure World (η ρ : Type) where
  store : Store
  data : ClientData
  actions : List RecommendationAction
  snapshot : Option (DashboardSnapshot η ρ)
  /-- What the engines read when the stored payload was generated; nothing reads it. -/
  generatedFrom : Option EngineInputs

/-- What the engines read in a state. -/
def World.engineInputs (clientId : Uuid) (w : World η ρ) : EngineInputs where
  clientName := w.data.name
  context := buildContext w.store w.data.name clientId
  signals := signals w.data (w.store.current clientId)

/-- `_hash_inputs`; `digest` is the hash of the JSON text. -/
def hashInputs (digest : Fingerprinted → η) (signals : DashboardSignals)
    (profileVersion : Option Nat) : η := digest (signals, profileVersion)

/-- `_SNAPSHOT_MAX_AGE_HOURS` -/
def snapshotMaxAgeHours : Int := 24

/-- `_snapshot_stale` -/
def snapshotStale (now computedAt : Timestamp) : Bool :=
  snapshotMaxAgeHours * 3600 * second < now - computedAt

/-- `_fresh_cache` -/
def World.freshCache [DecidableEq η] (w : World η ρ) (now : Timestamp) (inputsHash : η) :
    Option (DashboardResponse ρ) :=
  match w.snapshot with
  | none => none
  | some cached =>
    if cached.inputsHash ≠ inputsHash ∨ snapshotStale now cached.computedAt then none
    else some (mergeDecisions w.actions cached.payload)

/-- `_generate`: what the engines answer, with its decisions, replaces the snapshot. -/
def World.generate (w : World η ρ) (inputs : EngineInputs) (inputsHash : η)
    (computedAt : Timestamp) (answered : DashboardResponse ρ) :
    World η ρ × DashboardResponse ρ :=
  let response := mergeDecisions w.actions answered
  ({ w with
    snapshot := some ⟨response, inputsHash, computedAt⟩
    generatedFrom := some inputs }, response)

/-- The fingerprint `build` computes in a state. -/
def World.inputsHash (digest : Fingerprinted → η) (clientId : Uuid) (w : World η ρ) : η :=
  let inputs := w.engineInputs clientId
  hashInputs digest inputs.signals inputs.context.version

/-- `build`. A request that is alone finds under the lock what it found before. -/
def World.build [DecidableEq η] (digest : Fingerprinted → η) (clientId : Uuid) (w : World η ρ)
    (forceRefresh : Bool) (now computedAt : Timestamp) (answered : DashboardResponse ρ) :
    World η ρ × DashboardResponse ρ :=
  let inputsHash := w.inputsHash digest clientId
  let generated := w.generate (w.engineInputs clientId) inputsHash computedAt answered
  if forceRefresh then generated
  else
    match w.freshCache now inputsHash with
    | some cached => (w, cached)
    | none => generated

/-- One committed step. -/
inductive Label (ρ : Type) where
  /-- Any change of the client's data. -/
  | change (data : ClientData)
  /-- `record_decision` -/
  | decide (action : RecommendationAction)
  /-- A build of intelligence, or the resolution of a directive. -/
  | intelligence (label : Intelligence.Label)
  | dashboard (forceRefresh : Bool) (now computedAt : Timestamp) (answered : DashboardResponse ρ)

/-- Histories of one client, from blank intelligence tables and without a snapshot. -/
def machine [DecidableEq η] (tables : TextTables) (kit : Intelligence.Toolkit)
    (digest : Fingerprinted → η) (clientId : Uuid) : Machine (World η ρ) (Label ρ) where
  start w := w.store.Blank ∧ w.snapshot = none
  next w
    | .change data => some { w with data }
    | .decide action => some { w with actions := w.actions ++ [action] }
    | .intelligence label =>
      ((Intelligence.machine tables kit).next w.store label).map fun store => { w with store }
    | .dashboard forceRefresh now computedAt answered =>
      some (w.build digest clientId forceRefresh now computedAt answered).1

end MarketingOS.Dashboard
