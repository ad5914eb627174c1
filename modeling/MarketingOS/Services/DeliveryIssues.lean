import MarketingOS.Services.PlatformInsight

/-!
# Delivery issues

Delivery issues are not fetched but computed: from the status of the campaigns, ad sets and ads a
sync has pulled, and from what their review says. Here a sync takes its raw hierarchy rows, and its
issues are the ones computed from them. Nothing is returned where the computation raises or an
identifier is no text or number, which the column does not take.
-/
namespace MarketingOS.PlatformInsight

/-! ## Values -/

/-- `row[name]`; nothing for a `KeyError`. -/
def getItem (row : Json) (name : String) : Option Json :=
  match row with
  | .obj fields => fields.lookup name
  | _ => none

/-- `value in names`, for a set of texts; nothing for a value that cannot be hashed. -/
def inNames (value : Json) (names : List String) : Option Bool :=
  match value with
  | .arr _ => none
  | .obj _ => none
  | .str text => some (text ∈ names)
  | _ => some false

/-- A value as a text column holds it. -/
def columnText : Json → Option String
  | .str text => some text
  | .int value => some (toString value)
  | _ => none

/-- An issue as it is appended, before its identifier is a column. -/
structure FoundIssue where
  severity : String
  reason : String
  detail : Json
  /-- The last part of the `rec_key`. -/
  topic : String

/-- The row of an issue of an entity. -/
def FoundIssue.row (tables : TextTables) (entityType : String) (entityId : Json) (found : FoundIssue) :
    Option DeliveryIssueRow :=
  (columnText entityId).map fun id =>
    { recKey := s!"{entityType}:{tables.str entityId}:{found.topic}"
      columns := {
        entityType
        entityId := id
        severity := found.severity
        reason := found.reason
        detail := some found.detail
        status := "open" } }

/-! ## Meta -/

/-- The issues of one row of `_derive_meta_delivery_issues`. -/
def metaRowIssues (tables : TextTables) (entityType : String) (row : Json) :
    Option (List DeliveryIssueRow) := do
  let entityId ← getItem row "id"
  let status ← row.get? "status"
  let effective ← row.get? "effective_status"
  let issuesInfo ← row.get? "issues_info"
  let reviewFeedback ← row.get? "ad_review_feedback"
  let mismatch := status.truthy && effective.truthy && status ≠ effective &&
    effective ≠ .str "ACTIVE"
  let found : List FoundIssue :=
    (if mismatch then
      [⟨"medium", "status_mismatch",
        .obj [("status", status), ("effective_status", effective)], "status_mismatch"⟩] else []) ++
    (if issuesInfo.truthy then
      [⟨"high", "disapproved_or_flagged", .obj [("issues_info", issuesInfo)], "issues_info"⟩]
      else []) ++
    (if reviewFeedback.truthy then
      [⟨"high", "review_feedback", .obj [("ad_review_feedback", reviewFeedback)],
        "review_feedback"⟩] else [])
  found.mapM (FoundIssue.row tables entityType entityId)

/-- `_derive_meta_delivery_issues` -/
def deriveMetaDeliveryIssues (tables : TextTables) (campaigns adSets ads : List Json) :
    Option (List DeliveryIssueRow) := do
  let ofCampaigns ← campaigns.mapM (metaRowIssues tables "campaign")
  let ofAdSets ← adSets.mapM (metaRowIssues tables "ad_set")
  let ofAds ← ads.mapM (metaRowIssues tables "ad")
  return (ofCampaigns ++ ofAdSets ++ ofAds).flatten

/-! ## Google -/

/-- `_ISSUE_CAMPAIGN_STATUSES` -/
def issueCampaignStatuses : List String := ["LIMITED", "MISCONFIGURED", "NOT_ELIGIBLE", "PENDING"]

/-- `_HIGH_SEVERITY_STATUSES` -/
def highSeverityStatuses : List String := ["MISCONFIGURED", "NOT_ELIGIBLE"]

/-- `_OK_APPROVAL_STATUSES` -/
def okApprovalStatuses : List String := ["APPROVED", "APPROVED_LIMITED"]

/-- `value.get(camel) or value.get(snake)` -/
def getEither (value : Json) (camel snake : String) : Option Json := do
  return (← value.get? camel).orElse (← value.get? snake)

/-- The issues of one campaign of `_derive_google_delivery_issues`. -/
def googleCampaignIssues (tables : TextTables) (row : Json) : Option (List DeliveryIssueRow) := do
  let c := (← row.get? "campaign").orElse (.obj [])
  let primary ← getEither c "primaryStatus" "primary_status"
  match primary, ← inNames primary issueCampaignStatuses with
  | .str name, true =>
    let reasons ← getEither c "primaryStatusReasons" "primary_status_reasons"
    let found : FoundIssue := {
      severity := if name ∈ highSeverityStatuses then "high" else "medium"
      reason := "primary_status_" ++ tables.lower name
      detail := .obj [("primary_status", primary), ("reasons", reasons)]
      topic := "primary_status" }
    let issue ← found.row tables "campaign" (← c.get? "id")
    return [issue]
  | _, _ => return []

/-- The issues of one ad of `_derive_google_delivery_issues`. -/
def googleAdIssues (tables : TextTables) (row : Json) : Option (List DeliveryIssueRow) := do
  let aga := (← getEither row "adGroupAd" "ad_group_ad").orElse (.obj [])
  let ad := (← aga.get? "ad").orElse (.obj [])
  let policy := (← getEither aga "policySummary" "policy_summary").orElse (.obj [])
  let approval ← getEither policy "approvalStatus" "approval_status"
  if approval.truthy = false then return []
  else if ← inNames approval okApprovalStatuses then return []
  else
    let disapproved := approval = .str "DISAPPROVED"
    let entries ← getEither policy "policyTopicEntries" "policy_topic_entries"
    let found : FoundIssue := {
      severity := if disapproved then "high" else "medium"
      reason := if disapproved then "policy_disapproved" else "policy_under_review"
      detail := .obj [("approval_status", approval), ("policy_topic_entries", entries)]
      topic := "policy" }
    let issue ← found.row tables "ad" (← ad.get? "id")
    return [issue]

/-- `_derive_google_delivery_issues` -/
def deriveGoogleDeliveryIssues (tables : TextTables) (campaigns ads : List Json) :
    Option (List DeliveryIssueRow) := do
  let ofCampaigns ← campaigns.mapM (googleCampaignIssues tables)
  let ofAds ← ads.mapM (googleAdIssues tables)
  return (ofCampaigns ++ ofAds).flatten

/-! ## Syncs of raw payloads -/

/-- What a provider returned in one pull. The raw hierarchy rows stand beside the normalised ones,
and identifiers are drawn for the issues. -/
structure Payload where
  pull : Pull
  campaigns : List Json
  adSets : List Json
  ads : List Json
  issueId : Nat → Uuid

/-- One committed transaction, with the raw payload of a sync. -/
inductive RawLabel where
  | syncMeta (clientId : Uuid) (adAccountId : String) (payload : Payload)
  | syncGoogleAds (clientId : Uuid) (customerId : String) (payload : Payload)
  | syncGoogleLsa (clientId : Uuid) (customerId : String) (payload : Payload)
  | dismissRecommendation (clientId recId : Uuid)
  | resolveDeliveryIssue (clientId issueId : Uuid)

/-- The client and the integration of a sync, with the issues computed from its payload. -/
def RawLabel.computes (tables : TextTables) :
    RawLabel → Option (Uuid × String × Option (List DeliveryIssueRow))
  | .syncMeta clientId _ payload =>
    some (clientId, metaKey,
      deriveMetaDeliveryIssues tables payload.campaigns payload.adSets payload.ads)
  | .syncGoogleAds clientId _ payload =>
    some (clientId, googleAdsKey, deriveGoogleDeliveryIssues tables payload.campaigns payload.ads)
  | .syncGoogleLsa clientId _ payload =>
    some (clientId, googleLsaKey, deriveGoogleDeliveryIssues tables payload.campaigns [])
  | .dismissRecommendation _ _ => none
  | .resolveDeliveryIssue _ _ => none

/-- A pull with the issues computed from its payload. -/
def Payload.withIssues (payload : Payload) (issues : List DeliveryIssueRow) : Pull :=
  { payload.pull with deliveryIssues := issues.mapIdx fun i issue => (payload.issueId i, issue) }

/-- The transaction on normalised rows. -/
def RawLabel.normalised (tables : TextTables) : RawLabel → Option Label
  | .syncMeta clientId adAccountId payload =>
    (deriveMetaDeliveryIssues tables payload.campaigns payload.adSets payload.ads).map fun issues =>
      .syncMeta clientId adAccountId (payload.withIssues issues)
  | .syncGoogleAds clientId customerId payload =>
    (deriveGoogleDeliveryIssues tables payload.campaigns payload.ads).map fun issues =>
      .syncGoogleAds clientId customerId (payload.withIssues issues)
  | .syncGoogleLsa clientId customerId payload =>
    (deriveGoogleDeliveryIssues tables payload.campaigns []).map fun issues =>
      .syncGoogleLsa clientId customerId (payload.withIssues issues)
  | .dismissRecommendation clientId recId => some (.dismissRecommendation clientId recId)
  | .resolveDeliveryIssue clientId issueId => some (.resolveDeliveryIssue clientId issueId)

/-- Syncs of raw payloads and operators, from empty tables. -/
def payloadMachine (tables : TextTables) : Machine InsightTables RawLabel where
  start t := t = ⟨[], [], [], [], [], []⟩
  next t label := (label.normalised tables).bind (next tables t)

/-- `list_delivery_issues(client_id, integration_key, status="open")`, the list of the dashboard and
of the reports, in the order of the table. -/
def openIssues (t : InsightTables) (clientId : Uuid) (integrationKey : String) :
    List PlatformDeliveryIssue :=
  t.deliveryIssues.filter fun row =>
    row.clientId = clientId ∧ row.integrationKey = integrationKey ∧ row.columns.status = "open"

end MarketingOS.PlatformInsight
