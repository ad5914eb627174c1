import MarketingOS.Base.Json
import MarketingOS.Models.Enums
import MarketingOS.Models.Values

/-!
# Platform insight and analytics rows

The provider-agnostic tables a platform sync writes, and the daily analytics facts. Every table
has a natural key of its own beside the row identifier. The columns an upsert sends are kept in
one record each, under the name its column tuple has in the source.
-/
namespace MarketingOS

/-- `columns` of `upsert_campaigns`. -/
structure CampaignColumns where
  name : String
  objective : Option String
  status : Option String
  effectiveStatus : Option String
  dailyBudget : Option Rat
  lifetimeBudget : Option Rat
  startTime : Option Timestamp
  stopTime : Option Timestamp
  rawPayload : Json
deriving DecidableEq

/-- `PlatformCampaign`. -/
structure PlatformCampaign where
  id : Uuid
  clientId : Uuid
  integrationKey : String
  externalId : String
  columns : CampaignColumns
deriving DecidableEq

/-- `columns` of `upsert_ad_sets`. -/
structure AdSetColumns where
  name : String
  status : Option String
  effectiveStatus : Option String
  dailyBudget : Option Rat
  lifetimeBudget : Option Rat
  targetingSummary : Option Json
  rawPayload : Json
deriving DecidableEq

/-- `PlatformAdSet`. -/
structure PlatformAdSet where
  id : Uuid
  clientId : Uuid
  campaignId : Uuid
  integrationKey : String
  externalId : String
  columns : AdSetColumns
deriving DecidableEq

/-- `columns` of `upsert_ads`. -/
structure AdColumns where
  name : String
  status : Option String
  effectiveStatus : Option String
  creativeSummary : Option Json
  issuesInfo : Option Json
  adReviewFeedback : Option Json
  rawPayload : Json
deriving DecidableEq

/-- `PlatformAd`. -/
structure PlatformAd where
  id : Uuid
  clientId : Uuid
  adSetId : Uuid
  integrationKey : String
  externalId : String
  columns : AdColumns
deriving DecidableEq

/-- `columns` of `upsert_metrics_daily`. -/
structure MetricColumns where
  impressions : Int
  clicks : Int
  spend : Rat
  reach : Int
  frequency : Rat
  cpm : Rat
  cpc : Rat
  conversions : Int
  revenue : Rat
  actions : Option Json
  costPerActionType : Option Json
  breakdowns : Option Json
deriving DecidableEq

/-- `PlatformMetricDaily`. -/
structure PlatformMetricDaily where
  id : Uuid
  clientId : Uuid
  integrationKey : String
  entityType : String
  entityId : String
  date : Date
  columns : MetricColumns
deriving DecidableEq

/-- The columns of `PlatformRecommendation` outside its key. -/
structure RecommendationColumns where
  entityType : String
  entityId : String
  code : Option String
  title : Json
  message : Json
  importance : Json
  status : String
  rawPayload : Json
deriving DecidableEq

/-- `PlatformRecommendation` — a suggestion of the platform, verbatim. -/
structure PlatformRecommendation where
  id : Uuid
  clientId : Uuid
  integrationKey : String
  recKey : String
  columns : RecommendationColumns
deriving DecidableEq

/-- The columns of `PlatformDeliveryIssue` outside its key. -/
structure DeliveryIssueColumns where
  entityType : String
  entityId : String
  severity : String
  reason : String
  detail : Option Json
  status : String
deriving DecidableEq

/-- `PlatformDeliveryIssue` — a delivery problem the sync derived. -/
structure PlatformDeliveryIssue where
  id : Uuid
  clientId : Uuid
  integrationKey : String
  recKey : String
  columns : DeliveryIssueColumns
deriving DecidableEq

/-- `_METRICS` of the analytics repository. -/
structure AnalyticsMetrics where
  impressions : Int
  clicks : Int
  conversions : Int
  leads : Int
  spend : Rat
  revenue : Rat
deriving DecidableEq

/-- `AnalyticsDaily`. -/
structure AnalyticsDaily where
  id : Uuid
  clientId : Uuid
  date : Date
  platform : SocialPlatform
  metrics : AnalyticsMetrics
  source : Option String
deriving DecidableEq

end MarketingOS
