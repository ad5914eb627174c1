import Mathlib.Data.List.DropRight
import MarketingOS.Base.Machine
import MarketingOS.Core.Text
import MarketingOS.Repositories.PlatformInsight

/-!
# Platform insight service

A sync takes what a provider returned, normalises it and upserts the six tables of a client in one
transaction. Recommendations are normalised here; the other rows come normalised. Nothing is
returned when a normaliser raises or the server refuses a statement: such a sync stores nothing.
Between syncs operators dismiss recommendations and resolve delivery issues.
-/
namespace MarketingOS.PlatformInsight

/-- `_META_KEY` -/
def metaKey : String := "meta"

/-- `_GOOGLE_ADS_KEY` -/
def googleAdsKey : String := "google_ads"

/-- `_GOOGLE_LSA_KEY` -/
def googleLsaKey : String := "google_lsa"

/-! ## Normalisers of recommendations -/

/-- `_normalize_meta_recommendation` -/
def normalizeMetaRecommendation (tables : TextTables) (adAccountId : String) (row : Json) :
    Option RecommendationRow := do
  let code := tables.str ((← row.get? "code").orElse (.str ""))
  let title ← row.get? "title"
  let message ← row.get? "message"
  let importance ← row.get? "importance"
  let blameField ← row.get? "blame_field"
  let subject := ((Json.str code).orElse blameField).orElse message
  some {
    recKey := clip 160 s!"account:{adAccountId}:{tables.str subject}"
    columns := {
      entityType := "account"
      entityId := adAccountId
      code := if code = "" then none else some code
      title := (title.orElse message).orElse (.str "Recommendation")
      message
      importance
      status := "open"
      rawPayload := row } }

/-- `_last_segment` — the part after the last slash; only a text can be split. -/
def lastSegment (resourceName : Json) : Option Json :=
  if resourceName.truthy then
    match resourceName with
    | .str name => some (.str (String.ofList (name.toList.rtakeWhile (fun c => c ≠ '/'))))
    | _ => none
  else some .null

/-- `_normalize_google_recommendation` -/
def normalizeGoogleRecommendation (tables : TextTables) (customerId : String) (row : Json) :
    Option RecommendationRow := do
  let rec_ := (← row.get? "recommendation").orElse (.obj [])
  let recType := (← rec_.get? "type").orElse (.str "RECOMMENDATION")
  let campaignRef ← rec_.get? "campaign"
  let camel ← rec_.get? "resourceName"
  let snake ← rec_.get? "resource_name"
  let resourceName := (camel.orElse snake).orElse (.str "")
  let entityType := if campaignRef.truthy then "campaign" else "account"
  let entityId := tables.str ((← lastSegment campaignRef).orElse (.str customerId))
  match recType with
  | .str type =>
    some {
      recKey := clip 160 s!"{entityType}:{entityId}:{type}:{tables.str resourceName}"
      columns := {
        entityType
        entityId
        code := some type
        title := .str (tables.title (type.map fun c => if c = '_' then ' ' else c))
        message := .null
        importance := .null
        status := "open"
        rawPayload := row } }
  | _ => none

/-! ## Syncs -/

/-- The platform insight tables. -/
structure InsightTables where
  campaigns : List PlatformCampaign
  adSets : List PlatformAdSet
  ads : List PlatformAd
  metrics : List PlatformMetricDaily
  recommendations : List PlatformRecommendation
  deliveryIssues : List PlatformDeliveryIssue

/-- What a provider returned in one pull, each row with the identifier drawn for it.
Recommendations are raw, every other row is normalised. -/
structure Pull where
  campaigns : List (Uuid × CampaignRow)
  adSets : List (Uuid × AdSetRow)
  ads : List (Uuid × AdRow)
  metrics : List (Uuid × MetricRow)
  recommendations : List (Uuid × Json)
  deliveryIssues : List (Uuid × DeliveryIssueRow)

/-- `PlatformSyncResult` -/
structure PlatformSyncResult where
  campaigns : Nat
  adSets : Nat
  ads : Nat
  metrics : Nat
  recommendations : Nat
  deliveryIssues : Nat
deriving DecidableEq

/-- Normalise the recommendations of a pull. -/
def normalizeAll (normalize : Json → Option RecommendationRow) (rows : List (Uuid × Json)) :
    Option (List (Uuid × RecommendationRow)) :=
  rows.mapM fun row => (normalize row.2).map fun made => (row.1, made)

/-- The upserts of `sync_meta` and `sync_google_ads`, in order. -/
def syncHierarchy (integrationKey : String) (normalize : Json → Option RecommendationRow)
    (clientId : Uuid) (pull : Pull) (t : InsightTables) :
    Option (InsightTables × PlatformSyncResult) := do
  let (campaigns, campaignIds) ← upsertCampaigns clientId integrationKey pull.campaigns t.campaigns
  let (adSets, adSetIds) ← upsertAdSets clientId integrationKey pull.adSets campaignIds t.adSets
  let (ads, adsCount) ← upsertAds clientId integrationKey pull.ads adSetIds t.ads
  let (metrics, metricsCount) ←
    upsertMetricsDaily clientId integrationKey pull.metrics t.metrics
  let recRows ← normalizeAll normalize pull.recommendations
  let (recommendations, recsCount) ←
    upsertRecommendations clientId integrationKey recRows t.recommendations
  let (deliveryIssues, issuesCount) ←
    upsertDeliveryIssues clientId integrationKey pull.deliveryIssues t.deliveryIssues
  some ({ campaigns, adSets, ads, metrics, recommendations, deliveryIssues },
    ⟨campaignIds.entries.length, adSetIds.entries.length, adsCount, metricsCount, recsCount,
      issuesCount⟩)

/-- `sync_meta` -/
def syncMeta (tables : TextTables) (clientId : Uuid) (adAccountId : String) (pull : Pull)
    (t : InsightTables) : Option (InsightTables × PlatformSyncResult) :=
  syncHierarchy metaKey (normalizeMetaRecommendation tables adAccountId) clientId pull t

/-- `sync_google_ads` -/
def syncGoogleAds (tables : TextTables) (clientId : Uuid) (customerId : String) (pull : Pull)
    (t : InsightTables) : Option (InsightTables × PlatformSyncResult) :=
  syncHierarchy googleAdsKey (normalizeGoogleRecommendation tables customerId) clientId pull t

/-- `sync_google_lsa` — campaigns only, no ad sets and no ads. -/
def syncGoogleLsa (tables : TextTables) (clientId : Uuid) (customerId : String) (pull : Pull)
    (t : InsightTables) : Option (InsightTables × PlatformSyncResult) := do
  let (campaigns, campaignIds) ← upsertCampaigns clientId googleLsaKey pull.campaigns t.campaigns
  let (metrics, metricsCount) ← upsertMetricsDaily clientId googleLsaKey pull.metrics t.metrics
  let recRows ←
    normalizeAll (normalizeGoogleRecommendation tables customerId) pull.recommendations
  let (recommendations, recsCount) ←
    upsertRecommendations clientId googleLsaKey recRows t.recommendations
  let (deliveryIssues, issuesCount) ←
    upsertDeliveryIssues clientId googleLsaKey pull.deliveryIssues t.deliveryIssues
  some ({ t with campaigns, metrics, recommendations, deliveryIssues },
    ⟨campaignIds.entries.length, 0, 0, metricsCount, recsCount, issuesCount⟩)

/-! ## Operators -/

/-- A recommendation under another status. -/
def withStatus (status : String) (row : PlatformRecommendation) : PlatformRecommendation :=
  { row with columns := { row.columns with status } }

/-- A delivery issue under another status. -/
def issueWithStatus (status : String) (row : PlatformDeliveryIssue) : PlatformDeliveryIssue :=
  { row with columns := { row.columns with status } }

/-- `dismiss_recommendation`; nothing when the client has no such recommendation. -/
def dismissRecommendation (clientId recId : Uuid) (t : InsightTables) : Option InsightTables :=
  match t.recommendations.find? (fun row => decide (row.id = recId ∧ row.clientId = clientId)) with
  | none => none
  | some row =>
    some { t with
      recommendations :=
        Table.modify PlatformRecommendation.id row.id (withStatus "dismissed") t.recommendations }

/-- `resolve_delivery_issue`; nothing when the client has no such issue. -/
def resolveDeliveryIssue (clientId issueId : Uuid) (t : InsightTables) : Option InsightTables :=
  match t.deliveryIssues.find? (fun row => decide (row.id = issueId ∧ row.clientId = clientId)) with
  | none => none
  | some row =>
    some { t with
      deliveryIssues :=
        Table.modify PlatformDeliveryIssue.id row.id (issueWithStatus "resolved")
          t.deliveryIssues }

/-! ## The machine -/

/-- One committed transaction on the insight tables. -/
inductive Label where
  | syncMeta (clientId : Uuid) (adAccountId : String) (pull : Pull)
  | syncGoogleAds (clientId : Uuid) (customerId : String) (pull : Pull)
  | syncGoogleLsa (clientId : Uuid) (customerId : String) (pull : Pull)
  | dismissRecommendation (clientId recId : Uuid)
  | resolveDeliveryIssue (clientId issueId : Uuid)

/-- The tables after one transaction. -/
def next (tables : TextTables) (t : InsightTables) : Label → Option InsightTables
  | .syncMeta clientId adAccountId pull =>
    (syncMeta tables clientId adAccountId pull t).map Prod.fst
  | .syncGoogleAds clientId customerId pull =>
    (syncGoogleAds tables clientId customerId pull t).map Prod.fst
  | .syncGoogleLsa clientId customerId pull =>
    (syncGoogleLsa tables clientId customerId pull t).map Prod.fst
  | .dismissRecommendation clientId recId => dismissRecommendation clientId recId t
  | .resolveDeliveryIssue clientId issueId => resolveDeliveryIssue clientId issueId t

/-- Syncs and operators, from empty tables. -/
def machine (tables : TextTables) : Machine InsightTables Label where
  start t := t = ⟨[], [], [], [], [], []⟩
  next := next tables

end MarketingOS.PlatformInsight
