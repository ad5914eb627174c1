import MarketingOS.Integrations.Answers

/-!
# Meta client

Reading the insights, the campaign hierarchy and the recommendations of a Meta ad account. One loop
goes through the pages of every list; Graph's answer to a request is a function of the request.
-/
namespace MarketingOS.Integrations.Meta

open IntegrationService (SyncError)

variable {ν φ : Type}

/-- `_MAX_PAGES` -/
def maxPages : Nat := 10

/-- `_LEAD_ACTIONS` -/
def leadActions : List String := ["lead", "leadgen.other", "onsite_conversion.lead_grouped"]

/-- `_CONVERSION_ACTIONS` -/
def conversionActions : List String :=
  ["purchase", "offsite_conversion.fb_pixel_purchase", "omni_purchase"]

/-- `_INSIGHTS_FIELDS` -/
def insightsFields : String := "impressions,clicks,spend,actions,action_values,date_start"

/-- `_CAMPAIGN_INSIGHTS_FIELDS` -/
def campaignInsightsFields : String :=
  "campaign_id,impressions,clicks,spend,reach,frequency,cpm,cpc," ++
    "actions,action_values,cost_per_action_type,date_start"

/-- `_CAMPAIGN_FIELDS` -/
def campaignFields : String :=
  "id,name,objective,status,effective_status,daily_budget,lifetime_budget,start_time,stop_time"

/-- `_ADSET_FIELDS` -/
def adsetFields : String :=
  "id,name,campaign_id,status,effective_status,daily_budget,lifetime_budget,targeting"

/-- `_AD_FIELDS` -/
def adFields : String :=
  "id,name,adset_id,status,effective_status,issues_info,ad_review_feedback,creative"

/-! ## Pages -/

/-- A request: its address, and its parameters unless it follows a link. -/
structure Request where
  url : String
  params : Option (List (String × String))
deriving DecidableEq

section Pages

variable (tables : JsonTables ν)

/-- Whether a value is a given text. -/
def isText (text : String) : JsonValue ν → Bool
  | .str value => value == text
  | _ => false

/-- What `_paginated` raises on an error answer. -/
def rejection (resp : Response ν) (payload : List (String × JsonValue ν)) : SyncError :=
  match tables.entries (tables.orElse (JsonValue.get payload "error") (.dict [])) with
  | .error exc => exc
  | .ok error =>
    let message := orResponseText tables (JsonValue.get error "message") resp
    if isText "OAuthException" (JsonValue.get error "type") ∨ resp.statusCode ∈ [401, 403] then
      .auth ("Meta rejected our credentials: " ++ message)
    else .app ("Meta request failed: " ++ message)

/-- The payload of an answer. -/
def readPage : Answer ν → Except SyncError (List (String × JsonValue ν))
  | .unreachable text => .error (.app ("Could not reach Meta: " ++ text))
  | .raised text => .error (.other text)
  | .response resp => do
    let payload ← safeJson resp
    if 400 ≤ resp.statusCode ∨ holdsKey payload "error" then
      .error (rejection tables resp payload)
    else .ok payload

/-- The request of a turn of the loop. -/
def nextRequest (first : Request) (nextUrl : JsonValue ν) : Except SyncError Request :=
  if tables.truthy nextUrl then
    match nextUrl with
    | .str url => .ok ⟨url, none⟩
    | value => .error (.other ("Invalid type for url.  Expected str or httpx.URL, got <class '" ++
        tables.typeName value ++ "'>: " ++ tables.repr value))
  else .ok first

/-- The loop of `_paginated`. -/
def pagesFrom (http : Request → Answer ν) (first : Request) :
    Nat → JsonValue ν → List (JsonValue ν) → Except SyncError (List (JsonValue ν))
  | 0, _, rawRows => .ok rawRows
  | turns + 1, nextUrl, rawRows => do
    let request ← nextRequest tables first nextUrl
    let payload ← readPage tables (http request)
    let data ← tables.iterate (tables.orElse (JsonValue.get payload "data") (.list []))
    let paging ← tables.entries (tables.orElse (JsonValue.get payload "paging") (.dict []))
    let nextUrl := JsonValue.get paging "next"
    if tables.truthy nextUrl then pagesFrom http first turns nextUrl (rawRows ++ data)
    else .ok (rawRows ++ data)

/-- `MetaClient._paginated` -/
def paginated (http : Request → Answer ν) (first : Request) :
    Except SyncError (List (JsonValue ν)) :=
  pagesFrom tables http first maxPages .none []

end Pages

/-! ## Normalized rows -/

section Rows

variable (tables : JsonTables ν) (numerals : Numerals ν φ) (calendar : Calendar)

/-- `action_type in wanted` -/
def wantedAction (wanted : List String) (action : List (String × JsonValue ν)) :
    Except SyncError Bool :=
  match JsonValue.get action "action_type" with
  | .str name => .ok (wanted.contains name)
  | value =>
    if value.hashable then .ok false
    else .error (.other ("unhashable type: '" ++ tables.typeName value ++ "'"))

/-- A value that is added, or nothing where the exception is passed over. -/
def addend {α : Type} : Except NumberError α → Except SyncError (Option α)
  | .ok value => .ok (some value)
  | .error (.overflowError text) => .error (.other text)
  | .error _ => .ok none

/-- One turn of the loop of `_sum_actions`. -/
def addAction (wanted : List String) (total : Int) (action : JsonValue ν) :
    Except SyncError Int := do
  let entries ← tables.entries action
  if ← wantedAction tables wanted entries then
    match entries.lookup "value" with
    | none => .ok total
    | some value =>
      let count ← addend (numerals.float value >>= numerals.trunc)
      return total + count.getD 0
  else .ok total

/-- `_sum_actions` -/
def sumActions (actions : JsonValue ν) (wanted : List String) : Except SyncError Int := do
  let items ← tables.iterate (tables.orElse actions (.list []))
  items.foldlM (addAction tables numerals wanted) 0

/-- One turn of the loop of `_sum_values`. -/
def addValue (wanted : List String) (total : φ) (action : JsonValue ν) : Except SyncError φ := do
  let entries ← tables.entries action
  if ← wantedAction tables wanted entries then
    match entries.lookup "value" with
    | none => .ok (numerals.add total numerals.zero)
    | some value =>
      match ← addend (numerals.float value) with
      | none => .ok total
      | some amount => .ok (numerals.add total amount)
  else .ok total

/-- `_sum_values` -/
def sumValues (actionValues : JsonValue ν) (wanted : List String) : Except SyncError φ := do
  let items ← tables.iterate (tables.orElse actionValues (.list []))
  let total ← items.foldlM (addValue tables numerals wanted) numerals.zero
  return numerals.round2 total

/-- `date.fromisoformat(date_start) if date_start else date.today()` -/
def rowDate (dateStart : JsonValue ν) : Except SyncError Date :=
  if tables.truthy dateStart then
    match dateStart with
    | .str text =>
      match calendar.fromIsoFormat text with
      | none => .error (.other ("Invalid isoformat string: " ++ tables.repr (.str text)))
      | some date => .ok date
    | _ => .error (.other "fromisoformat: argument must be str")
  else .ok calendar.today

/-- `_normalize` -/
def normalize (row : JsonValue ν) : Except SyncError (DailyFacts φ) := do
  let row ← tables.entries row
  let actions := tables.orElse (JsonValue.get row "actions") (.list [])
  let date ← rowDate tables calendar (JsonValue.get row "date_start")
  let impressions ← orRaise (readCount tables numerals (JsonValue.get row "impressions"))
  let clicks ← orRaise (readCount tables numerals (JsonValue.get row "clicks"))
  let spend ← orRaise (readFloat tables numerals (JsonValue.get row "spend"))
  let leads ← sumActions tables numerals actions leadActions
  let conversions ← sumActions tables numerals actions conversionActions
  let revenue ← sumValues tables numerals (JsonValue.get row "action_values") conversionActions
  return {
    date := date
    impressions := impressions
    clicks := clicks
    spend := numerals.round2 spend
    conversions := conversions
    leads := leads
    revenue := revenue }

end Rows

/-! ## The fetches -/

/-- The account a client reads: the Graph version, the access token and the ad account. -/
structure Access where
  version : String
  accessToken : String
  adAccountId : String

/-- `_act` -/
def act (adAccountId : String) : String :=
  if "act_".toList.isPrefixOf adAccountId.toList then adAccountId else "act_" ++ adAccountId

/-- `f"{_GRAPH.format(version=...)}/{account}/{edge}"` -/
def Access.edge (access : Access) (edge : String) : String :=
  "https://graph.facebook.com/" ++ access.version ++ "/" ++ act access.adAccountId ++ "/" ++ edge

/-- The request of `fetch_daily_insights`. -/
def Access.dailyInsights (access : Access) (datePreset : String) : Request where
  url := access.edge "insights"
  params := some [("fields", insightsFields), ("time_increment", "1"), ("date_preset", datePreset),
    ("limit", "100"), ("access_token", access.accessToken)]

/-- The request of `fetch_campaign_metrics_daily`. -/
def Access.campaignMetrics (access : Access) (datePreset : String) : Request where
  url := access.edge "insights"
  params := some [("level", "campaign"), ("fields", campaignInsightsFields),
    ("time_increment", "1"), ("date_preset", datePreset), ("limit", "100"),
    ("access_token", access.accessToken)]

/-- A request of `fetch_campaign_hierarchy`. -/
def Access.listing (access : Access) (edge fields : String) : Request where
  url := access.edge edge
  params := some [("fields", fields), ("limit", "100"), ("access_token", access.accessToken)]

/-- The campaigns of the account. -/
def Access.campaigns (access : Access) : Request := access.listing "campaigns" campaignFields

/-- The ad sets of the account. -/
def Access.adSets (access : Access) : Request := access.listing "adsets" adsetFields

/-- The ads of the account. -/
def Access.ads (access : Access) : Request := access.listing "ads" adFields

/-- The request of `fetch_recommendations`. -/
def Access.recommendations (access : Access) : Request where
  url := access.edge "recommendations"
  params := some [("limit", "100"), ("access_token", access.accessToken)]

section Fetches

variable (tables : JsonTables ν) (http : Request → Answer ν) (access : Access)

/-- `MetaClient.fetch_daily_insights` -/
def fetchDailyInsights (numerals : Numerals ν φ) (calendar : Calendar) (datePreset : String) :
    Except SyncError (List (DailyFacts φ)) := do
  let rawRows ← paginated tables http (access.dailyInsights datePreset)
  rawRows.mapM (normalize tables numerals calendar)

end Fetches

end MarketingOS.Integrations.Meta
