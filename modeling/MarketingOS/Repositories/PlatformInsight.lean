import MarketingOS.Base.Upsert
import MarketingOS.Models.PlatformInsight

/-!
# Platform insight and analytics repositories

The seven bulk upserts. A batch is a list of provider rows, each with the identifier drawn for it;
a stored row keeps the identifier it has. Nothing is returned when the server refuses the
statement.
-/
namespace MarketingOS

/-! ## Campaigns, ad sets and ads -/

/-- The conflict clause of `upsert_campaigns`. -/
def PlatformCampaign.upsert : Upsert PlatformCampaign (Uuid × String × String) Uuid where
  key row := (row.clientId, row.integrationKey, row.externalId)
  id := PlatformCampaign.id
  withId id row := { row with id := id }
  setColumns stored excluded := { stored with columns := excluded.columns }
  key_withId _ _ := rfl
  id_withId _ _ := rfl
  withId_withId _ _ _ := rfl
  covers := fun ⟨_, _, _, _, _⟩ ⟨_, _, _, _, _⟩ same => by cases same; rfl

/-- The conflict clause of `upsert_ad_sets`. -/
def PlatformAdSet.upsert : Upsert PlatformAdSet (Uuid × String × String) Uuid where
  key row := (row.clientId, row.integrationKey, row.externalId)
  id := PlatformAdSet.id
  withId id row := { row with id := id }
  setColumns stored excluded :=
    { stored with
      campaignId := excluded.campaignId
      columns := excluded.columns }
  key_withId _ _ := rfl
  id_withId _ _ := rfl
  withId_withId _ _ _ := rfl
  covers := fun ⟨_, _, _, _, _, _⟩ ⟨_, _, _, _, _, _⟩ same => by cases same; rfl

/-- The conflict clause of `upsert_ads`. -/
def PlatformAd.upsert : Upsert PlatformAd (Uuid × String × String) Uuid where
  key row := (row.clientId, row.integrationKey, row.externalId)
  id := PlatformAd.id
  withId id row := { row with id := id }
  setColumns stored excluded :=
    { stored with
      adSetId := excluded.adSetId
      columns := excluded.columns }
  key_withId _ _ := rfl
  id_withId _ _ := rfl
  withId_withId _ _ _ := rfl
  covers := fun ⟨_, _, _, _, _, _⟩ ⟨_, _, _, _, _, _⟩ same => by cases same; rfl

namespace PlatformInsight

/-- A campaign row of a provider, normalised. -/
structure CampaignRow where
  externalId : String
  columns : CampaignColumns

/-- An ad set row of a provider, normalised. -/
structure AdSetRow where
  externalId : String
  campaignExternalId : Option String
  columns : AdSetColumns

/-- An ad row of a provider, normalised. -/
structure AdRow where
  externalId : String
  adSetExternalId : Option String
  columns : AdColumns

/-- `str(value)` of a text or of nothing. -/
def str (value : Option String) : String := value.getD "None"

/-- The values `upsert_campaigns` sends for one row. -/
def campaignValues (clientId : Uuid) (integrationKey : String) (row : Uuid × CampaignRow) :
    PlatformCampaign where
  id := row.1
  clientId := clientId
  integrationKey := integrationKey
  externalId := row.2.externalId
  columns := row.2.columns

/-- `RETURNING external_id, id`, as a dictionary. -/
def returning {ρ : Type} (u : Upsert ρ (Uuid × String × String) Uuid) (externalId : ρ → String)
    (values result : List ρ) : Dict String Uuid :=
  Dict.ofList (values.filterMap fun value =>
    (Table.get u.key result (u.key value)).map fun row => (externalId row, u.id row))

/-- `upsert_campaigns` — the table and `{external_id: internal_id}`. -/
def upsertCampaigns (clientId : Uuid) (integrationKey : String) (rows : List (Uuid × CampaignRow))
    (table : List PlatformCampaign) : Option (List PlatformCampaign × Dict String Uuid) :=
  if rows.isEmpty then some (table, .empty)
  else
    let values := rows.map (campaignValues clientId integrationKey)
    (PlatformCampaign.upsert.statement table values).map fun result =>
      (result, returning PlatformCampaign.upsert PlatformCampaign.externalId values result)

/-- The values `upsert_ad_sets` sends for one row; a row whose campaign was not synced is
skipped. -/
def adSetValues (clientId : Uuid) (integrationKey : String) (campaignIds : Dict String Uuid)
    (row : Uuid × AdSetRow) : Option PlatformAdSet :=
  (campaignIds.get (str row.2.campaignExternalId)).map fun campaignId =>
    { id := row.1, clientId, campaignId, integrationKey, externalId := row.2.externalId,
      columns := row.2.columns }

/-- `upsert_ad_sets` — the table and `{external_id: internal_id}`. -/
def upsertAdSets (clientId : Uuid) (integrationKey : String) (rows : List (Uuid × AdSetRow))
    (campaignIds : Dict String Uuid) (table : List PlatformAdSet) :
    Option (List PlatformAdSet × Dict String Uuid) :=
  let values := rows.filterMap (adSetValues clientId integrationKey campaignIds)
  if values.isEmpty then some (table, .empty)
  else
    (PlatformAdSet.upsert.statement table values).map fun result =>
      (result, returning PlatformAdSet.upsert PlatformAdSet.externalId values result)

/-- The values `upsert_ads` sends for one row; a row whose ad set was not synced is skipped. -/
def adValues (clientId : Uuid) (integrationKey : String) (adSetIds : Dict String Uuid)
    (row : Uuid × AdRow) : Option PlatformAd :=
  (adSetIds.get (str row.2.adSetExternalId)).map fun adSetId =>
    { id := row.1, clientId, adSetId, integrationKey, externalId := row.2.externalId,
      columns := row.2.columns }

/-- `upsert_ads` — the table and how many values were sent. -/
def upsertAds (clientId : Uuid) (integrationKey : String) (rows : List (Uuid × AdRow))
    (adSetIds : Dict String Uuid) (table : List PlatformAd) : Option (List PlatformAd × Nat) :=
  let values := rows.filterMap (adValues clientId integrationKey adSetIds)
  if values.isEmpty then some (table, 0)
  else (PlatformAd.upsert.statement table values).map fun result => (result, values.length)

end PlatformInsight

/-! ## Daily metrics -/

/-- The conflict clause of `upsert_metrics_daily`. -/
def PlatformMetricDaily.upsert :
    Upsert PlatformMetricDaily (Uuid × String × String × String × Date) Uuid where
  key row := (row.clientId, row.integrationKey, row.entityType, row.entityId, row.date)
  id := PlatformMetricDaily.id
  withId id row := { row with id := id }
  setColumns stored excluded := { stored with columns := excluded.columns }
  key_withId _ _ := rfl
  id_withId _ _ := rfl
  withId_withId _ _ _ := rfl
  covers := fun ⟨_, _, _, _, _, _, _⟩ ⟨_, _, _, _, _, _, _⟩ same => by cases same; rfl

namespace PlatformInsight

/-- A daily metric row of a provider, normalised. -/
structure MetricRow where
  entityType : String
  entityId : String
  date : Date
  columns : MetricColumns

/-- The values `upsert_metrics_daily` sends for one row. -/
def metricValues (clientId : Uuid) (integrationKey : String) (row : Uuid × MetricRow) :
    PlatformMetricDaily where
  id := row.1
  clientId := clientId
  integrationKey := integrationKey
  entityType := row.2.entityType
  entityId := row.2.entityId
  date := row.2.date
  columns := row.2.columns

/-- `upsert_metrics_daily` — the table and how many rows were sent. -/
def upsertMetricsDaily (clientId : Uuid) (integrationKey : String) (rows : List (Uuid × MetricRow))
    (table : List PlatformMetricDaily) : Option (List PlatformMetricDaily × Nat) :=
  if rows.isEmpty then some (table, 0)
  else
    let dedup := Dict.ofList (rows.map fun row =>
      ((row.2.entityType, row.2.entityId, row.2.date), metricValues clientId integrationKey row))
    (PlatformMetricDaily.upsert.statement table dedup.values).map fun result =>
      (result, dedup.values.length)

end PlatformInsight

/-! ## Recommendations and delivery issues -/

/-- The conflict clause of `_upsert_rec_keyed` on recommendations. -/
def PlatformRecommendation.upsert :
    Upsert PlatformRecommendation (Uuid × String × String) Uuid where
  key row := (row.clientId, row.integrationKey, row.recKey)
  id := PlatformRecommendation.id
  withId id row := { row with id := id }
  setColumns stored excluded := { stored with columns := excluded.columns }
  key_withId _ _ := rfl
  id_withId _ _ := rfl
  withId_withId _ _ _ := rfl
  covers := fun ⟨_, _, _, _, _⟩ ⟨_, _, _, _, _⟩ same => by cases same; rfl

/-- The conflict clause of `_upsert_rec_keyed` on delivery issues. -/
def PlatformDeliveryIssue.upsert : Upsert PlatformDeliveryIssue (Uuid × String × String) Uuid where
  key row := (row.clientId, row.integrationKey, row.recKey)
  id := PlatformDeliveryIssue.id
  withId id row := { row with id := id }
  setColumns stored excluded := { stored with columns := excluded.columns }
  key_withId _ _ := rfl
  id_withId _ _ := rfl
  withId_withId _ _ _ := rfl
  covers := fun ⟨_, _, _, _, _⟩ ⟨_, _, _, _, _⟩ same => by cases same; rfl

namespace PlatformInsight

/-- A recommendation of a provider, normalised. -/
structure RecommendationRow where
  recKey : String
  columns : RecommendationColumns
deriving DecidableEq

/-- A delivery issue, as the sync derives it. -/
structure DeliveryIssueRow where
  recKey : String
  columns : DeliveryIssueColumns
deriving DecidableEq

/-- `_upsert_rec_keyed` — the table and how many rows were sent. -/
def upsertRecKeyed {ρ row : Type} (u : Upsert ρ (Uuid × String × String) Uuid)
    (values : Uuid × row → ρ) (recKey : row → String) (rows : List (Uuid × row))
    (table : List ρ) : Option (List ρ × Nat) :=
  if rows.isEmpty then some (table, 0)
  else
    let dedup := Dict.ofList (rows.map fun row => (recKey row.2, values row))
    (u.statement table dedup.values).map fun result => (result, dedup.values.length)

/-- The values `upsert_recommendations` sends for one row. -/
def recommendationValues (clientId : Uuid) (integrationKey : String)
    (row : Uuid × RecommendationRow) : PlatformRecommendation where
  id := row.1
  clientId := clientId
  integrationKey := integrationKey
  recKey := row.2.recKey
  columns := row.2.columns

/-- `upsert_recommendations` -/
def upsertRecommendations (clientId : Uuid) (integrationKey : String)
    (rows : List (Uuid × RecommendationRow)) (table : List PlatformRecommendation) :
    Option (List PlatformRecommendation × Nat) :=
  upsertRecKeyed PlatformRecommendation.upsert (recommendationValues clientId integrationKey)
    RecommendationRow.recKey rows table

/-- The values `upsert_delivery_issues` sends for one row. -/
def deliveryIssueValues (clientId : Uuid) (integrationKey : String)
    (row : Uuid × DeliveryIssueRow) : PlatformDeliveryIssue where
  id := row.1
  clientId := clientId
  integrationKey := integrationKey
  recKey := row.2.recKey
  columns := row.2.columns

/-- `upsert_delivery_issues` -/
def upsertDeliveryIssues (clientId : Uuid) (integrationKey : String)
    (rows : List (Uuid × DeliveryIssueRow)) (table : List PlatformDeliveryIssue) :
    Option (List PlatformDeliveryIssue × Nat) :=
  upsertRecKeyed PlatformDeliveryIssue.upsert (deliveryIssueValues clientId integrationKey)
    DeliveryIssueRow.recKey rows table

end PlatformInsight

/-! ## Daily analytics -/

/-- The conflict clause of `AnalyticsRepository.bulk_upsert`. -/
def AnalyticsDaily.upsert : Upsert AnalyticsDaily (Uuid × Date × SocialPlatform) Uuid where
  key row := (row.clientId, row.date, row.platform)
  id := AnalyticsDaily.id
  withId id row := { row with id := id }
  setColumns stored excluded :=
    { stored with
      metrics := excluded.metrics
      source := excluded.source }
  key_withId _ _ := rfl
  id_withId _ _ := rfl
  withId_withId _ _ _ := rfl
  covers := fun ⟨_, _, _, _, _, _⟩ ⟨_, _, _, _, _, _⟩ same => by cases same; rfl

namespace Analytics

/-- `AnalyticsDailyIn`. -/
structure AnalyticsDailyIn where
  date : Date
  platform : SocialPlatform
  metrics : AnalyticsMetrics

/-- The values `bulk_upsert` sends for one row. -/
def dailyValues (clientId : Uuid) (source : String) (row : Uuid × AnalyticsDailyIn) :
    AnalyticsDaily where
  id := row.1
  clientId := clientId
  date := row.2.date
  platform := row.2.platform
  metrics := row.2.metrics
  source := some source

/-- `AnalyticsRepository.bulk_upsert` — the table and how many cells were upserted. -/
def bulkUpsert (clientId : Uuid) (source : String) (rows : List (Uuid × AnalyticsDailyIn))
    (table : List AnalyticsDaily) : Option (List AnalyticsDaily × Nat) :=
  if rows.isEmpty then some (table, 0)
  else
    let dedup := Dict.ofList (rows.map fun row =>
      ((row.2.date, Enumeration.value row.2.platform), dailyValues clientId source row))
    (AnalyticsDaily.upsert.statement table dedup.values).map fun result =>
      (result, dedup.values.length)

end Analytics

end MarketingOS
