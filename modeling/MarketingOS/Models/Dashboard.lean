import Mathlib.Data.Rat.Floor
import MarketingOS.Models.Integration
import MarketingOS.Models.Intelligence

/-!
# Dashboard rows

What the dashboard reads of a client outside the intelligence tables, the signals it assembles from
it, the decisions on recommendations, and the cached bundle.
-/
namespace MarketingOS

/-- `Campaign` -/
structure Campaign where
  name : String
  status : String
  targetCpl : Option ℚ
  targetCtr : Option ℚ
  targetConversionRate : Option ℚ
  impressions : Int
  clicks : Int
  conversions : Int
  leads : Int
  spend : ℚ
deriving DecidableEq

/-- What `_signals` reads of a client, and the name the engines read. -/
structure ClientData where
  name : String
  spendTotal : ℚ
  leadsTotal : Int
  cpl : ℚ
  onboardingStep : Int
  goals : Option String
  brandVoice : Option String
  integrations : List IntegrationStatus
  complianceEntries : List ComplianceEntry
  campaigns : List Campaign
  /-- The channels of the client's platforms. -/
  platforms : List String
  /-- The approval statuses of the client's marketing events. -/
  events : List ApprovalStatus
deriving DecidableEq

/-- `GoalMetric` — one goal-relative KPI: the client's target and the actual rollup. -/
structure GoalMetric where
  label : String
  target : ℚ
  actual : ℚ
  higherIsBetter : Bool
  onTrack : Bool
  unit : String
deriving DecidableEq

/-- `DashboardSignals` -/
structure DashboardSignals where
  spend : ℚ
  leads : Int
  cpl : ℚ
  connectedIntegrations : Nat
  pendingIntegrations : Nat
  pendingApprovals : Nat
  onboardingCompleted : Bool
  hasProfile : Bool
  bannedWords : List String
  requiredPhrases : List String
  rules : List String
  platforms : List String
  goals : Option String
  brandVoice : Option String
  activeCampaigns : Nat
  goalMetrics : List GoalMetric
  bestCampaign : Option (String × ℚ)
  worstCampaign : Option (String × ℚ)
deriving DecidableEq

/-- `RecommendationDecision` -/
inductive RecommendationDecision where
  | accepted
  | modified
  | rejected
deriving DecidableEq

/-- `RecommendationAction` — the row of one decision on a recommendation. -/
structure RecommendationAction where
  recKey : String
  decision : RecommendationDecision
  reason : Option String
  decidedBy : Option Uuid
  createdAt : Timestamp
deriving DecidableEq

/-- `RecommendationDecisionRead` -/
structure RecommendationDecisionRead where
  decision : RecommendationDecision
  reason : Option String
  decidedBy : Option Uuid
  createdAt : Timestamp
deriving DecidableEq

/-- `Recommendation` — what the model writes of it is `content`. -/
structure Recommendation (ρ : Type) where
  id : String
  content : ρ
  decision : Option RecommendationDecisionRead
deriving DecidableEq

/-- `DashboardResponse` — `content` is the health score, the brief, the watchdog and the verdicts. -/
structure DashboardResponse (ρ : Type) where
  recommendations : List (Recommendation ρ)
  content : ρ
deriving DecidableEq

/-- `DashboardSnapshot` — the cached bundle of a client. -/
structure DashboardSnapshot (η ρ : Type) where
  payload : DashboardResponse ρ
  inputsHash : η
  computedAt : Timestamp
deriving DecidableEq

end MarketingOS
