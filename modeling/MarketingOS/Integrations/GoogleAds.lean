import MarketingOS.Base.Dict
import MarketingOS.Integrations.Answers

/-!
# Google Ads client

The daily facts of a Google Ads account, merged by date from the results of three queries: the
metrics of the account, its conversions by category, and the phone calls of its campaigns.
-/
namespace MarketingOS.Integrations.GoogleAds

open IntegrationService (SyncError)

variable {ν φ : Type}

/-- `_PHONE_CALL_LEAD_CATEGORY` -/
def phoneCallLeadCategory : String := "PHONE_CALL_LEAD"

variable (tables : JsonTables ν) (numerals : Numerals ν φ) (calendar : Calendar)

/-- `_parse_date` -/
def parseDate (raw : JsonValue ν) : Except SyncError (Option Date) :=
  if tables.truthy raw then
    match raw with
    | .str text => .ok (calendar.fromIsoFormat text)
    | _ => .error (.other "fromisoformat: argument must be str")
  else .ok none

/-- `row.get(key) or \x7b\x7d` -/
def section? (row : List (String × JsonValue ν)) (key : String) :
    Except SyncError (List (String × JsonValue ν)) :=
  tables.entries (tables.orElse (JsonValue.get row key) (.dict []))

/-- `metrics.get(key, metrics.get(other, 0))` -/
def either (metrics : List (String × JsonValue ν)) (key other : String) : JsonValue ν :=
  (metrics.lookup key).getD (JsonValue.get metrics other)

/-- One turn of the loop over the conversions by category. -/
def addCallLead (byDate : Dict Date φ) (row : JsonValue ν) : Except SyncError (Dict Date φ) := do
  let row ← tables.entries row
  let segments ← section? tables row "segments"
  match JsonValue.get segments "conversionActionCategory" with
  | .str category =>
    if category ≠ phoneCallLeadCategory then .ok byDate
    else
      match ← parseDate tables calendar (JsonValue.get segments "date") with
      | none => .ok byDate
      | some d =>
        let metrics ← section? tables row "metrics"
        let x ← orRaise (readFloat tables numerals (JsonValue.get metrics "conversions"))
        return byDate.set d (numerals.add ((byDate.get d).getD numerals.zero) x)
  | _ => .ok byDate

/-- One turn of the loop over the phone calls. -/
def addPhoneCalls (byDate : Dict Date Int) (row : JsonValue ν) :
    Except SyncError (Dict Date Int) := do
  let row ← tables.entries row
  let segments ← section? tables row "segments"
  match ← parseDate tables calendar (JsonValue.get segments "date") with
  | none => .ok byDate
  | some d =>
    let metrics ← section? tables row "metrics"
    let n ← orRaise (readInt tables numerals (JsonValue.get metrics "phoneCalls"))
    return byDate.set d ((byDate.get d).getD 0 + n)

/-- `int(call_leads_by_date.get(d, 0))` -/
def callConversionsOn (callLeads : Dict Date φ) (d : Date) : Except SyncError Int :=
  match callLeads.get d with
  | none => .ok 0
  | some x => orRaise (numerals.trunc x)

/-- The facts of a row of the account. -/
def dayFacts (callLeads : Dict Date φ) (phoneCalls : Dict Date Int) (row : JsonValue ν) :
    Except SyncError (DailyFacts φ) := do
  let row ← tables.entries row
  let m ← section? tables row "metrics"
  let segments ← section? tables row "segments"
  let parsed ← parseDate tables calendar (JsonValue.get segments "date")
  let d := parsed.getD calendar.today
  let conversions ← orRaise (readCount tables numerals (JsonValue.get m "conversions"))
  let callConversions ← callConversionsOn numerals callLeads d
  let nonCallConversions := conversions - callConversions
  let leads := max nonCallConversions 0 + (phoneCalls.get d).getD 0
  let impressions ← orRaise (readInt tables numerals (JsonValue.get m "impressions"))
  let clicks ← orRaise (readInt tables numerals (JsonValue.get m "clicks"))
  let micros ← orRaise (readInt tables numerals (either m "costMicros" "cost_micros"))
  let cost ← orRaise (numerals.perMillion micros)
  let revenue ← orRaise
    (readFloat tables numerals (either m "conversionsValue" "conversions_value"))
  return {
    date := d
    impressions := impressions
    clicks := clicks
    spend := numerals.round2 cost
    conversions := conversions
    leads := leads
    revenue := numerals.round2 revenue }

/-- The batches of a payload. -/
def batches (payload : List (String × JsonValue ν)) : List (JsonValue ν) :=
  match JsonValue.get payload "data" with
  | .list items => items
  | _ => [.dict payload]

/-- The rows of a batch. -/
def results (batch : JsonValue ν) : Except SyncError (List (JsonValue ν)) := do
  let batch ← tables.entries (tables.orElse batch (.dict []))
  tables.iterate (tables.orElse (JsonValue.get batch "results") (.list []))

/-- The facts of the rows of a batch. -/
def batchFacts (callLeads : Dict Date φ) (phoneCalls : Dict Date Int) (batch : JsonValue ν) :
    Except SyncError (List (DailyFacts φ)) := do
  let found ← results tables batch
  found.mapM (dayFacts tables numerals calendar callLeads phoneCalls)

/-- `_normalize` -/
def normalize (payload : List (String × JsonValue ν))
    (callConversionRows phoneCallRows : List (JsonValue ν)) :
    Except SyncError (List (DailyFacts φ)) := do
  let callLeads ← callConversionRows.foldlM (addCallLead tables numerals calendar) Dict.empty
  let phoneCalls ← phoneCallRows.foldlM (addPhoneCalls tables numerals calendar) Dict.empty
  let rows ← (batches payload).mapM (batchFacts tables numerals calendar callLeads phoneCalls)
  return rows.flatten

end MarketingOS.Integrations.GoogleAds
