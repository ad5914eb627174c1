import MarketingOS.Base.Pull
import MarketingOS.Base.StableSort
import MarketingOS.Integrations.GoogleAds
import MarketingOS.Integrations.Requests

/-!
# Daily pulls

The requests a sync makes for the daily facts of a provider, in order, and the rows it makes of
their payloads. Meta's pages and the queries of both Google Ads clients come one after another; the
other providers answer one request.
-/
namespace MarketingOS.Integrations

open IntegrationService (SyncError)

variable {ν φ : Type}

/-- The requests for daily facts. -/
inductive DataRequest where
  | metaPage (request : Meta.Request)
  | adsDaily
  | adsCallConversions
  | adsPhoneCalls
  | lsaCampaigns
  | lsaLeads
  | ga4Report
  | searchAnalytics
  | adAnalytics
deriving DecidableEq

/-- Requests for daily facts, one after another. -/
abbrev DataPull (ν α : Type) : Type := Pull DataRequest (Entries ν) SyncError α

/-- The calendar as the Google clients read it. -/
structure Dates extends Calendar where
  /-- `datetime.strptime(text, "%Y%m%d").date()`; nothing where it raises `ValueError` -/
  compact : String → Option Date
  /-- `datetime.fromisoformat(text.replace("Z", "+00:00")).date()`; nothing where it raises
  `ValueError` -/
  ofMoment : String → Option Date

variable (tables : JsonTables ν) (numerals : Numerals ν φ) (dates : Dates)

/-- `value[0]` -/
def firstItem : JsonValue ν → Except SyncError (JsonValue ν)
  | .list (first :: _) => .ok first
  | .list [] => .error (.other "list index out of range")
  | .str text =>
    match text.toList with
    | first :: _ => .ok (.str (String.ofList [first]))
    | [] => .error (.other "string index out of range")
  | .dict _ => .error (.other "0")
  | value => .error (.other ("'" ++ tables.typeName value ++ "' object is not subscriptable"))

/-! ## Meta -/

/-- The loop of `MetaClient._paginated`. -/
def metaPagesFrom (first : Meta.Request) :
    Nat → JsonValue ν → List (JsonValue ν) → DataPull ν (List (JsonValue ν))
  | 0, _, rawRows => .done (.ok rawRows)
  | turns + 1, nextUrl, rawRows => do
    let request ← Pull.done (Meta.nextRequest tables first nextUrl)
    let payload ← Pull.request (.metaPage request)
    let data ← Pull.done (tables.iterate
      (tables.orElse (JsonValue.get payload "data") (.list [])))
    let paging ← Pull.done (tables.entries
      (tables.orElse (JsonValue.get payload "paging") (.dict [])))
    let nextUrl := JsonValue.get paging "next"
    if tables.truthy nextUrl then metaPagesFrom first turns nextUrl (rawRows ++ data)
    else .done (.ok (rawRows ++ data))

/-- `MetaClient.fetch_daily_insights` -/
def metaPull (access : Meta.Access) : DataPull ν (List (DailyFacts φ)) := do
  let rawRows ← metaPagesFrom tables (access.dailyInsights "last_90d") Meta.maxPages .none []
  .done (rawRows.mapM (Meta.normalize tables numerals dates.toCalendar))

section Pages

variable {read : DataRequest → Except SyncError (Entries ν)} {http : Meta.Request → Answer ν}

/-- The loop asks for the pages of `_paginated`. -/
theorem run_metaPagesFrom (same : ∀ page, read (.metaPage page) = Meta.readPage tables (http page))
    (first : Meta.Request) (turns : Nat) (nextUrl : JsonValue ν) (rawRows : List (JsonValue ν)) :
    (metaPagesFrom tables first turns nextUrl rawRows).run read =
      Meta.pagesFrom tables http first turns nextUrl rawRows := by
  induction turns generalizing nextUrl rawRows with
  | zero => rfl
  | succ turns ih =>
    rw [metaPagesFrom, Meta.pagesFrom, Pull.run_bind]
    refine congrArg _ (funext fun request => ?_)
    rw [Pull.run_bind, Pull.run_request, same]
    refine congrArg _ (funext fun payload => ?_)
    rw [Pull.run_bind]
    refine congrArg _ (funext fun data => ?_)
    rw [Pull.run_bind]
    refine congrArg _ (funext fun paging => ?_)
    dsimp only
    split
    · exact ih _ _
    · rfl

/-- Meta's pull is the fetch of its client. -/
theorem run_metaPull (same : ∀ page, read (.metaPage page) = Meta.readPage tables (http page))
    (access : Meta.Access) :
    (metaPull tables numerals dates access).run read =
      Meta.fetchDailyInsights tables http access numerals dates.toCalendar "last_90d" := by
  rw [metaPull, Pull.run_bind, run_metaPagesFrom tables same]
  rfl

end Pages

/-! ## Google Ads -/

/-- `GoogleAdsClient._search` -/
def adsSearch (query : DataRequest) : DataPull ν (List (JsonValue ν)) := do
  let data ← Pull.request query
  .done (((GoogleAds.batches data).mapM (GoogleAds.results tables)).map List.flatten)

/-- `GoogleAdsClient.fetch_daily_insights` -/
def googleAdsPull : DataPull ν (List (DailyFacts φ)) := do
  let data ← Pull.request .adsDaily
  let callConversionRows ← adsSearch tables .adsCallConversions
  let phoneCallRows ← adsSearch tables .adsPhoneCalls
  .done (GoogleAds.normalize tables numerals dates.toCalendar data callConversionRows
    phoneCallRows)

/-! ## Local services ads -/

/-- The sums of a day. -/
structure LsaBucket where
  impressions : Int := 0
  clicks : Int := 0
  costMicros : Int := 0
  leads : Int := 0

/-- One turn of the loop over the campaigns. -/
def addCampaignRow (byDate : Dict Date LsaBucket) (row : JsonValue ν) :
    Except SyncError (Dict Date LsaBucket) := do
  let row ← tables.entries row
  let m ← GoogleAds.section? tables row "metrics"
  let segments ← GoogleAds.section? tables row "segments"
  let d ← Meta.rowDate tables dates.toCalendar (JsonValue.get segments "date")
  let bucket := (byDate.get d).getD {}
  let impressions ← orRaise (readInt tables numerals (JsonValue.get m "impressions"))
  let clicks ← orRaise (readInt tables numerals (JsonValue.get m "clicks"))
  let costMicros ← orRaise
    (readInt tables numerals (GoogleAds.either m "costMicros" "cost_micros"))
  return byDate.set d { bucket with
    impressions := bucket.impressions + impressions
    clicks := bucket.clicks + clicks
    costMicros := bucket.costMicros + costMicros }

/-- `_parse_lead_date` -/
def parseLeadDate (value : JsonValue ν) : Except SyncError Date :=
  if tables.truthy value then
    match value with
    | .str text => .ok ((dates.ofMoment text).getD dates.today)
    | value => .error (tables.noAttribute value "replace")
  else .ok dates.today

/-- One turn of the loop over the leads. -/
def addLeadRow (byDate : Dict Date LsaBucket) (row : JsonValue ν) :
    Except SyncError (Dict Date LsaBucket) := do
  let row ← tables.entries row
  let lead ← tables.entries (tables.orElse (tables.orElse (JsonValue.get row "localServicesLead")
    (JsonValue.get row "local_services_lead")) (.dict []))
  if tables.truthy (tables.orElse (JsonValue.get lead "leadCharged")
      (JsonValue.get lead "lead_charged")) then
    let d ← parseLeadDate tables dates (tables.orElse (JsonValue.get lead "creationDateTime")
      (JsonValue.get lead "creation_date_time"))
    let bucket := (byDate.get d).getD {}
    return byDate.set d { bucket with leads := bucket.leads + 1 }
  else return byDate

/-- The loop over the rows of a payload. -/
def overResults (add : Dict Date LsaBucket → JsonValue ν → Except SyncError (Dict Date LsaBucket))
    (byDate : Dict Date LsaBucket) (payload : Entries ν) :
    Except SyncError (Dict Date LsaBucket) :=
  (GoogleAds.batches payload).foldlM (fun byDate batch => do
    let rows ← GoogleAds.results tables batch
    rows.foldlM add byDate) byDate

/-- The facts of a day. -/
def lsaFacts (entry : Date × LsaBucket) : Except SyncError (DailyFacts φ) := do
  let cost ← orRaise (numerals.perMillion entry.2.costMicros)
  return {
    date := entry.1
    impressions := entry.2.impressions
    clicks := entry.2.clicks
    spend := numerals.round2 cost
    conversions := entry.2.leads
    leads := entry.2.leads
    revenue := numerals.zero }

/-- `_normalize` of the LSA client. -/
def lsaNormalize (campaignPayload leadsPayload : Entries ν) :
    Except SyncError (List (DailyFacts φ)) := do
  let byDate ← overResults tables (addCampaignRow tables numerals dates) Dict.empty campaignPayload
  let byDate ← overResults tables (addLeadRow tables dates) byDate leadsPayload
  (StableSort.sortBy (fun entry => entry.1.rank) byDate.entries).mapM (lsaFacts numerals)

/-- `LsaClient.fetch_daily_insights` -/
def lsaPull : DataPull ν (List (DailyFacts φ)) := do
  let campaignData ← Pull.request .lsaCampaigns
  let leadsData ← Pull.request .lsaLeads
  .done (lsaNormalize tables numerals dates campaignData leadsData)

/-! ## Google Analytics -/

/-- `_METRICS` -/
def ga4Metrics : List String := ["screenPageViews", "sessions", "conversions", "totalRevenue"]

/-- `datetime.strptime(date_str, "%Y%m%d").date() if date_str else date.today()` -/
def compactDate (dateStr : JsonValue ν) : Except SyncError Date :=
  if tables.truthy dateStr then
    match dateStr with
    | .str text =>
      match dates.compact text with
      | some date => .ok date
      | none => .error (.other ("time data " ++ tables.repr (.str text) ++
          " does not match format '%Y%m%d'"))
    | value => .error (.other ("strptime() argument 1 must be str, not " ++
        tables.typeName value))
  else .ok dates.today

/-- `v.get("value", 0)` — what is missing counts as zero. -/
def metricValue (value : JsonValue ν) : Except SyncError (JsonValue ν) := do
  let entries ← tables.entries value
  return JsonValue.get entries "value"

/-- `dim_values[0].get("value") if dim_values else None` -/
def dimensionDate (dimValues : JsonValue ν) : Except SyncError (JsonValue ν) :=
  if tables.truthy dimValues then firstItem tables dimValues >>= metricValue tables else .ok .none

/-- `_normalize` of the GA4 client. -/
def ga4Normalize (row : JsonValue ν) : Except SyncError (DailyFacts φ) := do
  let row ← tables.entries row
  let dateStr ← dimensionDate tables
    (tables.orElse (JsonValue.get row "dimensionValues") (.list []))
  let metricValues ← tables.iterate
    (tables.orElse (JsonValue.get row "metricValues") (.list []))
  let values ← metricValues.mapM (metricValue tables)
  let byMetric := ga4Metrics.zip values
  let conversions ← orRaise (readCount tables numerals (JsonValue.get byMetric "conversions"))
  let date ← compactDate tables dates dateStr
  let impressions ← orRaise
    (readCount tables numerals (JsonValue.get byMetric "screenPageViews"))
  let clicks ← orRaise (readCount tables numerals (JsonValue.get byMetric "sessions"))
  let revenue ← orRaise (readFloat tables numerals (JsonValue.get byMetric "totalRevenue"))
  return {
    date := date
    impressions := impressions
    clicks := clicks
    spend := numerals.zero
    conversions := conversions
    leads := conversions
    revenue := numerals.round2 revenue }

/-- `[_normalize(row) for row in (data.get("rows") or [])]` -/
def normalizeRows (normalize : JsonValue ν → Except SyncError (DailyFacts φ))
    (data : Entries ν) : Except SyncError (List (DailyFacts φ)) := do
  let rows ← tables.iterate (tables.orElse (JsonValue.get data "rows") (.list []))
  rows.mapM normalize

/-- `Ga4Client.fetch_daily_insights` -/
def ga4Pull : DataPull ν (List (DailyFacts φ)) := do
  let data ← Pull.request .ga4Report
  .done (normalizeRows tables (ga4Normalize tables numerals dates) data)

/-! ## Search Console -/

/-- `keys[0] if keys else None` -/
def keyDate (keys : JsonValue ν) : Except SyncError (JsonValue ν) :=
  if tables.truthy keys then firstItem tables keys else .ok .none

/-- `_normalize` of the Search Console client. -/
def searchConsoleNormalize (row : JsonValue ν) : Except SyncError (DailyFacts φ) := do
  let row ← tables.entries row
  let dateStr ← keyDate tables (tables.orElse (JsonValue.get row "keys") (.list []))
  let date ← Meta.rowDate tables dates.toCalendar dateStr
  let impressions ← orRaise (readCount tables numerals (JsonValue.get row "impressions"))
  let clicks ← orRaise (readCount tables numerals (JsonValue.get row "clicks"))
  return {
    date := date
    impressions := impressions
    clicks := clicks
    spend := numerals.zero
    conversions := 0
    leads := 0
    revenue := numerals.zero }

/-- `SearchConsoleClient.fetch_daily_insights` -/
def searchConsolePull : DataPull ν (List (DailyFacts φ)) := do
  let data ← Pull.request .searchAnalytics
  .done (normalizeRows tables (searchConsoleNormalize tables numerals dates) data)

/-! ## LinkedIn -/

/-- One turn of the loop over the elements. -/
def addElement (totals : DailyFacts φ) (element : JsonValue ν) :
    Except SyncError (DailyFacts φ) := do
  let el ← tables.entries element
  let impressions ← orRaise (readCount tables numerals (JsonValue.get el "impressions"))
  let clicks ← orRaise (readCount tables numerals (JsonValue.get el "clicks"))
  let spend ← orRaise (readFloat tables numerals (JsonValue.get el "costInUsd"))
  let conversions ← orRaise
    (readCount tables numerals (JsonValue.get el "externalWebsiteConversions"))
  let leads ← orRaise (readCount tables numerals (JsonValue.get el "oneClickLeads"))
  return { totals with
    impressions := totals.impressions + impressions
    clicks := totals.clicks + clicks
    spend := numerals.add totals.spend spend
    conversions := totals.conversions + conversions
    leads := totals.leads + leads }

/-- `_normalize` of the LinkedIn client, on today's date. -/
def linkedinNormalize (payload : Entries ν) : Except SyncError (DailyFacts φ) := do
  let elements ← tables.iterate (tables.orElse (JsonValue.get payload "elements") (.list []))
  let totals ← elements.foldlM (addElement tables numerals)
    ⟨dates.today, 0, 0, numerals.zero, 0, 0, numerals.zero⟩
  return { totals with spend := numerals.round2 totals.spend }

/-- `LinkedInClient.fetch_metrics`, as one row. -/
def linkedinPull : DataPull ν (List (DailyFacts φ)) := do
  let data ← Pull.request .adAnalytics
  let insights ← Pull.done (linkedinNormalize tables numerals dates data)
  .done (.ok [insights])

end MarketingOS.Integrations
