import MarketingOS.Integrations.DailyPulls
import MarketingOS.Verif.CompletePulls

/-!
# Failures of the pulls themselves

What a pull raises on its own account, with every request answered: a payload of another shape than
the client expects raises Python's exceptions and never an `AppError`.
-/
namespace MarketingOS.Integrations

open IntegrationService (SyncError)
open Meta (IsAppError entries_unexpected iterate_unexpected number_unexpected rowDate_unexpected
  normalize_unexpected)

variable {ν φ : Type} (tables : JsonTables ν) (numerals : Numerals ν φ) (dates : Dates)

/-- Python's exceptions only. -/
abbrev Unexpected {α : Type} (result : Except SyncError α) : Prop :=
  RaisesOnly (fun exc => ¬IsAppError exc) result

/-- A pull that raises Python's exceptions only. -/
abbrev UnexpectedPull {α : Type} (pull : DataPull ν α) : Prop :=
  pull.Raises fun exc => ¬IsAppError exc

/-- Taking the first item. -/
theorem firstItem_unexpected (value : JsonValue ν) : Unexpected (firstItem tables value) := by
  cases value with
  | list items =>
    cases items with
    | nil => exact raisesOnly_error id
    | cons first rest => exact raisesOnly_ok first
  | str text =>
    rw [firstItem]
    split
    · exact raisesOnly_ok _
    · exact raisesOnly_error id
  | _ => exact raisesOnly_error id

/-- Looking into a value of a metric. -/
theorem metricValue_unexpected (value : JsonValue ν) : Unexpected (metricValue tables value) :=
  raisesOnly_bind (entries_unexpected tables value) fun _ => raisesOnly_ok _

/-! ## Meta -/

/-- The request of a turn. -/
theorem nextRequest_unexpected (first : Meta.Request) (nextUrl : JsonValue ν) :
    Unexpected (Meta.nextRequest tables first nextUrl) := by
  unfold Meta.nextRequest
  split
  · split
    · exact raisesOnly_ok _
    · exact raisesOnly_error id
  · exact raisesOnly_ok first

/-- The loop over the pages. -/
theorem metaPagesFrom_unexpected (first : Meta.Request) (turns : Nat) (nextUrl : JsonValue ν)
    (rawRows : List (JsonValue ν)) :
    UnexpectedPull (metaPagesFrom tables first turns nextUrl rawRows) := by
  induction turns generalizing nextUrl rawRows with
  | zero => exact raisesOnly_ok rawRows
  | succ turns ih =>
    refine Pull.raises_bind (nextRequest_unexpected tables first nextUrl) fun request =>
      Pull.raises_bind (Pull.raises_request _) fun payload =>
      Pull.raises_bind (iterate_unexpected tables _) fun data =>
      Pull.raises_bind (entries_unexpected tables _) fun paging => ?_
    dsimp only
    split
    · exact ih _ _
    · exact raisesOnly_ok _

/-- Meta's pull. -/
theorem metaPull_unexpected (access : Meta.Access) :
    UnexpectedPull (metaPull tables numerals dates access) :=
  Pull.raises_bind (metaPagesFrom_unexpected tables _ _ _ _) fun rawRows =>
    Traverse.raisesOnly_mapM (normalize_unexpected tables numerals dates.toCalendar) rawRows

/-! ## Google Ads -/

/-- The rows of a batch. -/
theorem results_unexpected (batch : JsonValue ν) : Unexpected (GoogleAds.results tables batch) :=
  raisesOnly_bind (entries_unexpected tables _) fun _ => iterate_unexpected tables _

/-- A part of a row. -/
theorem section_unexpected (row : Entries ν) (key : String) :
    Unexpected (GoogleAds.section? tables row key) := entries_unexpected tables _

/-- Reading a date. -/
theorem parseDate_unexpected (calendar : Calendar) (raw : JsonValue ν) :
    Unexpected (GoogleAds.parseDate tables calendar raw) := by
  unfold GoogleAds.parseDate
  split
  · split
    · exact raisesOnly_ok _
    · exact raisesOnly_error id
  · exact raisesOnly_ok none

/-- Counting a conversion by category. -/
theorem addCallLead_unexpected (byDate : Dict Date φ) (row : JsonValue ν) :
    Unexpected (GoogleAds.addCallLead tables numerals dates.toCalendar byDate row) := by
  refine raisesOnly_bind (entries_unexpected tables row) fun row =>
    raisesOnly_bind (section_unexpected tables row _) fun segments => ?_
  split
  · split
    · exact raisesOnly_ok byDate
    · refine raisesOnly_bind (parseDate_unexpected tables _ _) fun date => ?_
      cases date with
      | none => exact raisesOnly_ok byDate
      | some date =>
        exact raisesOnly_bind (section_unexpected tables row _) fun metrics =>
          raisesOnly_bind (number_unexpected _) fun x => raisesOnly_ok _
  · exact raisesOnly_ok byDate

/-- Counting phone calls. -/
theorem addPhoneCalls_unexpected (byDate : Dict Date Int) (row : JsonValue ν) :
    Unexpected (GoogleAds.addPhoneCalls tables numerals dates.toCalendar byDate row) := by
  refine raisesOnly_bind (entries_unexpected tables row) fun row =>
    raisesOnly_bind (section_unexpected tables row _) fun segments =>
    raisesOnly_bind (parseDate_unexpected tables _ _) fun date => ?_
  cases date with
  | none => exact raisesOnly_ok byDate
  | some date =>
    exact raisesOnly_bind (section_unexpected tables row _) fun metrics =>
      raisesOnly_bind (number_unexpected _) fun n => raisesOnly_ok _

/-- The conversions by call of a day. -/
theorem callConversionsOn_unexpected (callLeads : Dict Date φ) (d : Date) :
    Unexpected (GoogleAds.callConversionsOn numerals callLeads d) := by
  unfold GoogleAds.callConversionsOn
  split
  · exact raisesOnly_ok 0
  · exact number_unexpected _

/-- The facts of a row of the account. -/
theorem dayFacts_unexpected (callLeads : Dict Date φ) (phoneCalls : Dict Date Int)
    (row : JsonValue ν) :
    Unexpected (GoogleAds.dayFacts tables numerals dates.toCalendar callLeads phoneCalls row) :=
  raisesOnly_bind (entries_unexpected tables row) fun _ =>
    raisesOnly_bind (section_unexpected tables _ _) fun _ =>
    raisesOnly_bind (section_unexpected tables _ _) fun _ =>
    raisesOnly_bind (parseDate_unexpected tables _ _) fun _ =>
    raisesOnly_bind (number_unexpected _) fun _ =>
    raisesOnly_bind (callConversionsOn_unexpected numerals callLeads _) fun _ =>
    raisesOnly_bind (number_unexpected _) fun _ =>
    raisesOnly_bind (number_unexpected _) fun _ =>
    raisesOnly_bind (number_unexpected _) fun _ =>
    raisesOnly_bind (number_unexpected _) fun _ =>
    raisesOnly_bind (number_unexpected _) fun _ => raisesOnly_ok _

/-- Normalizing the results of the queries. -/
theorem adsNormalize_unexpected (payload : Entries ν)
    (callConversionRows phoneCallRows : List (JsonValue ν)) :
    Unexpected (GoogleAds.normalize tables numerals dates.toCalendar payload callConversionRows
      phoneCallRows) :=
  raisesOnly_bind (raisesOnly_foldlM (addCallLead_unexpected tables numerals dates) _ _)
    fun callLeads =>
    raisesOnly_bind (raisesOnly_foldlM (addPhoneCalls_unexpected tables numerals dates) _ _)
      fun phoneCalls =>
      raisesOnly_bind (Traverse.raisesOnly_mapM (fun batch =>
        raisesOnly_bind (results_unexpected tables batch) fun found =>
          Traverse.raisesOnly_mapM
            (dayFacts_unexpected tables numerals dates callLeads phoneCalls) found) _)
        fun _ => raisesOnly_ok _

/-- One query. -/
theorem adsSearch_unexpected (query : DataRequest) : UnexpectedPull (adsSearch tables query) := by
  refine Pull.raises_bind (Pull.raises_request query) fun data => ?_
  have batches : Unexpected ((GoogleAds.batches data).mapM (GoogleAds.results tables) >>=
      fun rows => .ok rows.flatten) :=
    raisesOnly_bind (Traverse.raisesOnly_mapM (results_unexpected tables) _) fun _ =>
      raisesOnly_ok _
  change Unexpected (((GoogleAds.batches data).mapM (GoogleAds.results tables)).map List.flatten)
  cases found : (GoogleAds.batches data).mapM (GoogleAds.results tables) with
  | error failure =>
    rw [found] at batches
    exact batches
  | ok rows => exact raisesOnly_ok _

/-- The pull of the Google Ads client. -/
theorem googleAdsPull_unexpected : UnexpectedPull (googleAdsPull tables numerals dates) :=
  Pull.raises_bind (Pull.raises_request _) fun data =>
    Pull.raises_bind (adsSearch_unexpected tables _) fun callConversionRows =>
    Pull.raises_bind (adsSearch_unexpected tables _) fun phoneCallRows =>
    adsNormalize_unexpected tables numerals dates data callConversionRows phoneCallRows

/-! ## Local services ads -/

/-- Adding a row of a campaign. -/
theorem addCampaignRow_unexpected (byDate : Dict Date LsaBucket) (row : JsonValue ν) :
    Unexpected (addCampaignRow tables numerals dates byDate row) :=
  raisesOnly_bind (entries_unexpected tables row) fun _ =>
    raisesOnly_bind (section_unexpected tables _ _) fun _ =>
    raisesOnly_bind (section_unexpected tables _ _) fun _ =>
    raisesOnly_bind (rowDate_unexpected tables _ _) fun _ =>
    raisesOnly_bind (number_unexpected _) fun _ =>
    raisesOnly_bind (number_unexpected _) fun _ =>
    raisesOnly_bind (number_unexpected _) fun _ => raisesOnly_ok _

/-- Reading the moment of a lead. -/
theorem parseLeadDate_unexpected (value : JsonValue ν) :
    Unexpected (parseLeadDate tables dates value) := by
  unfold parseLeadDate
  split
  · split
    · exact raisesOnly_ok _
    · exact raisesOnly_error id
  · exact raisesOnly_ok _

/-- Adding a lead. -/
theorem addLeadRow_unexpected (byDate : Dict Date LsaBucket) (row : JsonValue ν) :
    Unexpected (addLeadRow tables dates byDate row) := by
  refine raisesOnly_bind (entries_unexpected tables row) fun row =>
    raisesOnly_bind (entries_unexpected tables _) fun lead => ?_
  split
  · exact raisesOnly_bind (parseLeadDate_unexpected tables dates _) fun d => raisesOnly_ok _
  · exact raisesOnly_ok byDate

/-- The loop over the rows of a payload. -/
theorem overResults_unexpected
    {add : Dict Date LsaBucket → JsonValue ν → Except SyncError (Dict Date LsaBucket)}
    (each : ∀ byDate row, Unexpected (add byDate row)) (byDate : Dict Date LsaBucket)
    (payload : Entries ν) : Unexpected (overResults tables add byDate payload) :=
  raisesOnly_foldlM (fun _ batch => raisesOnly_bind (results_unexpected tables batch) fun rows =>
    raisesOnly_foldlM each rows _) _ byDate

/-- The pull of the LSA client. -/
theorem lsaPull_unexpected : UnexpectedPull (lsaPull tables numerals dates) :=
  Pull.raises_bind (Pull.raises_request _) fun _ =>
    Pull.raises_bind (Pull.raises_request _) fun _ =>
    raisesOnly_bind
      (overResults_unexpected tables (addCampaignRow_unexpected tables numerals dates) _ _)
      fun _ => raisesOnly_bind
        (overResults_unexpected tables (addLeadRow_unexpected tables dates) _ _)
        fun _ => Traverse.raisesOnly_mapM
          (fun _ => raisesOnly_bind (number_unexpected _) fun _ => raisesOnly_ok _) _

/-! ## The clients of one request -/

/-- Reading a compact date. -/
theorem compactDate_unexpected (dateStr : JsonValue ν) :
    Unexpected (compactDate tables dates dateStr) := by
  unfold compactDate
  split
  · split
    · split
      · exact raisesOnly_ok _
      · exact raisesOnly_error id
    · exact raisesOnly_error id
  · exact raisesOnly_ok _

/-- Finding the date among the dimensions. -/
theorem dimensionDate_unexpected (dimValues : JsonValue ν) :
    Unexpected (dimensionDate tables dimValues) := by
  unfold dimensionDate
  split
  · exact raisesOnly_bind (firstItem_unexpected tables _) fun _ => metricValue_unexpected tables _
  · exact raisesOnly_ok _

/-- Normalizing a row of Google Analytics. -/
theorem ga4Normalize_unexpected (row : JsonValue ν) :
    Unexpected (ga4Normalize tables numerals dates row) :=
  raisesOnly_bind (entries_unexpected tables row) fun _ =>
    raisesOnly_bind (dimensionDate_unexpected tables _) fun _ =>
    raisesOnly_bind (iterate_unexpected tables _) fun _ =>
    raisesOnly_bind (Traverse.raisesOnly_mapM (metricValue_unexpected tables) _) fun _ =>
    raisesOnly_bind (number_unexpected _) fun _ =>
    raisesOnly_bind (compactDate_unexpected tables dates _) fun _ =>
    raisesOnly_bind (number_unexpected _) fun _ =>
    raisesOnly_bind (number_unexpected _) fun _ =>
    raisesOnly_bind (number_unexpected _) fun _ => raisesOnly_ok _

/-- Finding the date among the keys. -/
theorem keyDate_unexpected (keys : JsonValue ν) : Unexpected (keyDate tables keys) := by
  unfold keyDate
  split
  · exact firstItem_unexpected tables _
  · exact raisesOnly_ok _

/-- Normalizing a row of Search Console. -/
theorem searchConsoleNormalize_unexpected (row : JsonValue ν) :
    Unexpected (searchConsoleNormalize tables numerals dates row) :=
  raisesOnly_bind (entries_unexpected tables row) fun _ =>
    raisesOnly_bind (keyDate_unexpected tables _) fun _ =>
    raisesOnly_bind (rowDate_unexpected tables _ _) fun _ =>
    raisesOnly_bind (number_unexpected _) fun _ =>
    raisesOnly_bind (number_unexpected _) fun _ => raisesOnly_ok _

/-- A pull of one request whose rows are normalized one by one. -/
theorem rowsPull_unexpected {normalize : JsonValue ν → Except SyncError (DailyFacts φ)}
    (each : ∀ row, Unexpected (normalize row)) (request : DataRequest) :
    UnexpectedPull (Pull.request request >>= fun data =>
      .done (normalizeRows tables normalize data)) :=
  Pull.raises_bind (Pull.raises_request request) fun _ =>
    raisesOnly_bind (iterate_unexpected tables _) fun rows => Traverse.raisesOnly_mapM each rows

/-- Adding an element. -/
theorem addElement_unexpected (totals : DailyFacts φ) (element : JsonValue ν) :
    Unexpected (addElement tables numerals totals element) :=
  raisesOnly_bind (entries_unexpected tables element) fun _ =>
    raisesOnly_bind (number_unexpected _) fun _ =>
    raisesOnly_bind (number_unexpected _) fun _ =>
    raisesOnly_bind (number_unexpected _) fun _ =>
    raisesOnly_bind (number_unexpected _) fun _ =>
    raisesOnly_bind (number_unexpected _) fun _ => raisesOnly_ok _

/-- The pull of the LinkedIn client. -/
theorem linkedinPull_unexpected : UnexpectedPull (linkedinPull tables numerals dates) :=
  Pull.raises_bind (Pull.raises_request _) fun _ =>
    Pull.raises_bind
      (raisesOnly_bind (iterate_unexpected tables _) fun _ =>
        raisesOnly_bind (raisesOnly_foldlM (addElement_unexpected tables numerals) _ _) fun _ =>
          raisesOnly_ok _)
      fun _ => raisesOnly_ok _

end MarketingOS.Integrations
