import Mathlib.Algebra.Order.Floor.Ring
import Mathlib.Data.List.Forall2
import Mathlib.Data.Rat.Floor
import Mathlib.Tactic.Linarith
import MarketingOS.Base.Traverse
import MarketingOS.Integrations.GoogleAds

/-!
# Honest leads

The leads of a Google Ads account against what its three queries report. Counts are exact rationals
here: a float that is read from a result is the number it stands for.
-/
namespace MarketingOS.Integrations.GoogleAds

open IntegrationService (SyncError)

/-! ## Exact numbers -/

/-- `int(x)` — the whole part, toward zero. -/
def wholePart (x : ℚ) : Int := if 0 ≤ x then ⌊x⌋ else ⌈x⌉

/-- `round(x)` — to the nearest whole number, and to the even one of two. -/
def roundEven (x : ℚ) : Int :=
  if Int.fract x < 1 / 2 then ⌊x⌋
  else if 1 / 2 < Int.fract x then ⌊x⌋ + 1
  else if ⌊x⌋ % 2 = 0 then ⌊x⌋ else ⌊x⌋ + 1

/-- Rational arithmetic; what `float` and `int` make of a text is given. -/
def exactNumerals (floatOf : String → Option ℚ) (intOf : String → Option Int) : Numerals ℚ ℚ where
  float
    | .bool value => .ok (if value then 1 else 0)
    | .number value => .ok value
    | .str text => match floatOf text with
      | none => .error (.valueError "could not convert string to float")
      | some value => .ok value
    | _ => .error (.typeError "float() argument must be a string or a real number")
  int
    | .bool value => .ok (if value then 1 else 0)
    | .number value => .ok (wholePart value)
    | .str text => match intOf text with
      | none => .error (.valueError "invalid literal for int() with base 10")
      | some value => .ok value
    | _ => .error (.typeError "int() argument must be a string or a real number")
  trunc x := .ok (wholePart x)
  zero := 0
  add x y := x + y
  round2 x := roundEven (x * 100) / 100
  perMillion n := .ok (n / 1000000)

/-- The whole part of a number that is not negative is its floor. -/
theorem wholePart_nonneg {x : ℚ} (nonneg : 0 ≤ x) : wholePart x = ⌊x⌋ := if_pos nonneg

/-- The floor of a difference is that of the floors, less one when the fraction is borrowed
from. -/
theorem floor_sub_floor (c k : ℚ) :
    ⌊c⌋ - ⌊k⌋ = ⌊c - k⌋ + if Int.fract k ≤ Int.fract c then 0 else 1 := by
  have split : c - k = (Int.fract c - Int.fract k) + ((⌊c⌋ - ⌊k⌋ : Int) : ℚ) := by
    have front := Int.fract_add_floor c
    have back := Int.fract_add_floor k
    push_cast
    linarith
  rw [split, Int.floor_add_intCast]
  by_cases within : Int.fract k ≤ Int.fract c
  · have none : ⌊Int.fract c - Int.fract k⌋ = 0 := by
      rw [Int.floor_eq_zero_iff]
      exact ⟨by linarith, by linarith [Int.fract_lt_one c, Int.fract_nonneg k]⟩
    rw [if_pos within, none]
    omega
  · have borrowed : ⌊Int.fract c - Int.fract k⌋ = -1 := by
      rw [Int.floor_eq_iff]
      push_cast
      constructor
      · linarith [Int.fract_nonneg c, Int.fract_lt_one k]
      · linarith [lt_of_not_ge within]
    rw [if_neg within, borrowed]
    omega

/-! ## Reports -/

/-- The conversions of the account on a day. -/
structure AccountDay where
  date : Date
  conversions : ℚ
  nonneg : 0 ≤ conversions

/-- Conversions of a category on a day. -/
structure CategoryCount where
  date : Date
  category : String
  conversions : ℚ
  nonneg : 0 ≤ conversions

/-- The phone calls of a campaign on a day. -/
structure CampaignCalls where
  date : Date
  phoneCalls : ℚ
  nonneg : 0 ≤ phoneCalls

/-- The sum of a count over the rows of a date. -/
def totalOn {α : Type} (dateOf : α → Date) (count : α → ℚ) (date : Date) : List α → ℚ
  | [] => 0
  | row :: rows =>
    (if dateOf row = date then count row else 0) + totalOn dateOf count date rows

/-- Conversions that count as calls. -/
def CategoryCount.asCall (row : CategoryCount) : ℚ :=
  if row.category = phoneCallLeadCategory then row.conversions else 0

/-- What the three queries report. -/
structure Report where
  account : List AccountDay
  categories : List CategoryCount
  campaigns : List CampaignCalls
  oneDay : (account.map AccountDay.date).Nodup
  /-- The conversions of a date cover its call conversions. -/
  covered : ∀ date, totalOn CategoryCount.date CategoryCount.asCall date categories ≤
    totalOn AccountDay.date AccountDay.conversions date account

namespace Report

variable (report : Report)

/-- The conversions of a date. -/
def conversions (date : Date) : ℚ :=
  totalOn AccountDay.date AccountDay.conversions date report.account

/-- The conversions of a date that were calls. -/
def callConversions (date : Date) : ℚ :=
  totalOn CategoryCount.date CategoryCount.asCall date report.categories

/-- The raw phone calls of a date. -/
def phoneCalls (date : Date) : ℚ :=
  totalOn CampaignCalls.date CampaignCalls.phoneCalls date report.campaigns

/-- The fractions of the phone calls of a date, row by row. -/
def callFractions (date : Date) : ℚ :=
  totalOn CampaignCalls.date (fun row => Int.fract row.phoneCalls) date report.campaigns

/-- A date on which one of the results has a positive count, or the account a row. -/
def Counted (date : Date) : Prop :=
  (∃ day ∈ report.account, day.date = date) ∨
    (∃ row ∈ report.categories, row.date = date ∧ 0 < row.conversions) ∨
    ∃ row ∈ report.campaigns, row.date = date ∧ 0 < row.phoneCalls

/-- Normalized rows that drop no call and count none twice. -/
def Honest (rows : List (DailyFacts ℚ)) : Prop :=
  (∀ date, report.Counted date → ∃ row ∈ rows, row.date = date) ∧
    ∀ row ∈ rows,
      (row.leads : ℚ) = ⌊report.conversions row.date - report.callConversions row.date⌋ +
        report.phoneCalls row.date ∧
      row.conversions = ⌊report.conversions row.date⌋

/-- The account has a row for every date that is counted, and on none of these days the parts that
are cut off make a difference: none is borrowed for the call conversions, and the calls are whole;
or the one that is borrowed is made up by the fractions of the calls. -/
def Aligned : Prop :=
  (∀ date, report.Counted date → ∃ day ∈ report.account, day.date = date) ∧
    ∀ day ∈ report.account, report.callFractions day.date =
      if Int.fract (report.callConversions day.date) ≤ Int.fract day.conversions then 0 else 1

end Report

/-! ## Results of the queries -/

section Results

variable (tables : JsonTables ℚ) (floatOf : String → Option ℚ) (intOf : String → Option Int)
  (calendar : Calendar)

/-- The segments and the metrics of a row, and the date of its segments. -/
def HasParts (row : JsonValue ℚ) (segments metrics : List (String × JsonValue ℚ)) (date : Date) :
    Prop :=
  ∃ entries text, row = .dict entries ∧
    (section? tables entries "segments" = .ok segments) ∧
    (section? tables entries "metrics" = .ok metrics) ∧
    JsonValue.get segments "date" = .str text ∧ text ≠ "" ∧
    calendar.fromIsoFormat text = some date

/-- A row of the conversions by category. -/
def IsCategoryRow (row : JsonValue ℚ) (count : CategoryCount) : Prop :=
  ∃ segments metrics, HasParts tables calendar row segments metrics count.date ∧
    JsonValue.get segments "conversionActionCategory" = .str count.category ∧
    readFloat tables (exactNumerals floatOf intOf) (JsonValue.get metrics "conversions") =
      .ok count.conversions

/-- A row of the phone calls; `int` reads the whole part of the count. -/
def IsCampaignRow (row : JsonValue ℚ) (calls : CampaignCalls) : Prop :=
  ∃ segments metrics, HasParts tables calendar row segments metrics calls.date ∧
    readFloat tables (exactNumerals floatOf intOf) (JsonValue.get metrics "phoneCalls") =
      .ok calls.phoneCalls ∧
    readInt tables (exactNumerals floatOf intOf) (JsonValue.get metrics "phoneCalls") =
      .ok ⌊calls.phoneCalls⌋

/-- A row of the account; its other metrics are numbers too. -/
def IsAccountRow (row : JsonValue ℚ) (day : AccountDay) : Prop :=
  ∃ segments metrics, HasParts tables calendar row segments metrics day.date ∧
    readFloat tables (exactNumerals floatOf intOf) (JsonValue.get metrics "conversions") =
      .ok day.conversions ∧
    Returns (readInt tables (exactNumerals floatOf intOf) (JsonValue.get metrics "impressions")) ∧
    Returns (readInt tables (exactNumerals floatOf intOf) (JsonValue.get metrics "clicks")) ∧
    Returns (readInt tables (exactNumerals floatOf intOf)
      (either metrics "costMicros" "cost_micros")) ∧
    Returns (readFloat tables (exactNumerals floatOf intOf)
      (either metrics "conversionsValue" "conversions_value"))

/-- The payload of the account, in batches of any size. -/
def IsPayload (payload : List (String × JsonValue ℚ)) (days : List AccountDay) : Prop :=
  ∃ split : List (List AccountDay), split.flatten = days ∧
    List.Forall₂ (fun batch part => ∃ rows, results tables batch = .ok rows ∧
      List.Forall₂ (IsAccountRow tables floatOf intOf calendar) rows part) (batches payload) split

end Results

/-! ## Totals -/

section Totals

variable {α : Type} {dateOf : α → Date} {count : α → ℚ}

/-- A total of counts that are not negative is not negative. -/
theorem totalOn_nonneg (nonneg : ∀ row, 0 ≤ count row) (rows : List α) (date : Date) :
    0 ≤ totalOn dateOf count date rows := by
  induction rows with
  | nil => exact le_refl 0
  | cons row rows ih =>
    refine add_nonneg ?_ ih
    split
    · exact nonneg row
    · exact le_refl 0

/-- A date no row has has no total. -/
theorem totalOn_absent {rows : List α} {date : Date} (absent : date ∉ rows.map dateOf) :
    totalOn dateOf count date rows = 0 := by
  induction rows with
  | nil => rfl
  | cons row rows ih =>
    rw [List.map_cons, List.mem_cons, not_or] at absent
    rw [totalOn, if_neg fun same => absent.1 same.symm, ih absent.2, add_zero]

/-- The total of a date that only one row has is the count of this row. -/
theorem totalOn_of_mem {rows : List α} (distinct : (rows.map dateOf).Nodup) {row : α}
    (inside : row ∈ rows) : totalOn dateOf count (dateOf row) rows = count row := by
  induction rows with
  | nil => cases inside
  | cons other rows ih =>
    rw [List.map_cons, List.nodup_cons] at distinct
    obtain rfl | later := List.mem_cons.mp inside
    · rw [totalOn, if_pos rfl, totalOn_absent distinct.1, add_zero]
    · have apart : dateOf other ≠ dateOf row := fun same =>
        distinct.1 (same ▸ List.mem_map_of_mem later)
      rw [totalOn, if_neg apart, zero_add, ih distinct.2 later]

/-- A total is that of the whole parts and that of the fractions. -/
theorem totalOn_split (dateOf : α → Date) (count : α → ℚ) (rows : List α) (date : Date) :
    totalOn dateOf count date rows =
      totalOn dateOf (fun row => (⌊count row⌋ : ℚ)) date rows +
        totalOn dateOf (fun row => Int.fract (count row)) date rows := by
  induction rows with
  | nil => exact (add_zero (0 : ℚ)).symm
  | cons row rows ih =>
    rw [totalOn, totalOn, totalOn, ih]
    split
    · linarith [Int.floor_add_fract (count row)]
    · linarith

end Totals

/-! ## Reading the results -/

section Reading

variable (tables : JsonTables ℚ) (floatOf : String → Option ℚ) (intOf : String → Option Int)
  (calendar : Calendar)

/-- The date of a row is parsed. -/
theorem parseDate_text {value : JsonValue ℚ} {text : String} {date : Date}
    (isText : value = .str text) (present : text ≠ "") (parsed : calendar.fromIsoFormat text = some date) :
    parseDate tables calendar value = .ok (some date) := by
  have truth : tables.truthy (.str text) = true := decide_eq_true present
  rw [isText, parseDate, if_pos truth, parsed]

/-- A count that is a float is read as its whole part. -/
theorem readCount_of_readFloat {value : JsonValue ℚ} {x : ℚ} (nonneg : 0 ≤ x)
    (read : readFloat tables (exactNumerals floatOf intOf) value = .ok x) :
    readCount tables (exactNumerals floatOf intOf) value = .ok ⌊x⌋ := by
  unfold readFloat at read
  unfold readCount
  split
  · rw [if_pos ‹_›] at read
    rw [read]
    exact congrArg Except.ok (wholePart_nonneg nonneg)
  · rw [if_neg ‹_›] at read
    obtain rfl := Except.ok.inj read
    exact congrArg Except.ok Int.floor_zero.symm

/-- One row of the conversions by category. -/
theorem addCallLead_row {row : JsonValue ℚ} {count : CategoryCount}
    (isRow : IsCategoryRow tables floatOf intOf calendar row count) (byDate : Dict Date ℚ) :
    ∃ next, addCallLead tables (exactNumerals floatOf intOf) calendar byDate row = .ok next ∧
      ∀ date, (next.get date).getD 0 = (byDate.get date).getD 0 +
        if count.date = date then count.asCall else 0 := by
  obtain ⟨segments, metrics, ⟨entries, text, rfl, isSegments, isMetrics, isDate, present, parsed⟩,
    isCategory, isCount⟩ := isRow
  have dated := parseDate_text tables calendar isDate present parsed
  by_cases isCall : count.category = phoneCallLeadCategory
  · refine ⟨byDate.set count.date ((byDate.get count.date).getD 0 + count.conversions), ?_, ?_⟩
    · simp only [addCallLead, JsonTables.entries, bind, Except.bind, isSegments, isCategory, isCall,
        ne_eq, not_true_eq_false, if_false, dated, isMetrics, isCount]
      rfl
    · intro date
      rw [Dict.get_set, CategoryCount.asCall, if_pos isCall]
      by_cases same : count.date = date
      · rw [if_pos same.symm, if_pos same, ← same]
        rfl
      · rw [if_neg fun wrong => same wrong.symm, if_neg same, add_zero]
  · refine ⟨byDate, ?_, fun date => ?_⟩
    · simp only [addCallLead, JsonTables.entries, bind, Except.bind, isSegments, isCategory, ne_eq,
        isCall, not_false_eq_true, if_true]
    · rw [CategoryCount.asCall, if_neg isCall, ite_self, add_zero]

/-- The call conversions of each date are gathered. -/
theorem callLeads_rows {rows : List (JsonValue ℚ)} {counts : List CategoryCount}
    (areRows : List.Forall₂ (IsCategoryRow tables floatOf intOf calendar) rows counts)
    (byDate : Dict Date ℚ) :
    ∃ last, rows.foldlM (addCallLead tables (exactNumerals floatOf intOf) calendar) byDate =
        .ok last ∧
      ∀ date, (last.get date).getD 0 = (byDate.get date).getD 0 +
        totalOn CategoryCount.date CategoryCount.asCall date counts := by
  induction areRows generalizing byDate with
  | nil => exact ⟨byDate, rfl, fun date => (add_zero _).symm⟩
  | cons isRow areRows ih =>
    obtain ⟨next, step, gained⟩ := addCallLead_row tables floatOf intOf calendar isRow byDate
    obtain ⟨last, rest, total⟩ := ih next
    refine ⟨last, ?_, fun date => ?_⟩
    · rw [List.foldlM_cons, step]
      exact rest
    · rw [total, gained, totalOn, add_assoc]

/-- One row of the phone calls. -/
theorem addPhoneCalls_row {row : JsonValue ℚ} {calls : CampaignCalls}
    (isRow : IsCampaignRow tables floatOf intOf calendar row calls) (byDate : Dict Date Int) :
    ∃ next, addPhoneCalls tables (exactNumerals floatOf intOf) calendar byDate row = .ok next ∧
      ∀ date, (((next.get date).getD 0 : Int) : ℚ) = (((byDate.get date).getD 0 : Int) : ℚ) +
        if calls.date = date then (⌊calls.phoneCalls⌋ : ℚ) else 0 := by
  obtain ⟨segments, metrics, ⟨entries, text, rfl, isSegments, isMetrics, isDate, present, parsed⟩,
    -, isCount⟩ := isRow
  have dated := parseDate_text tables calendar isDate present parsed
  refine ⟨byDate.set calls.date ((byDate.get calls.date).getD 0 + ⌊calls.phoneCalls⌋), ?_, ?_⟩
  · simp only [addPhoneCalls, JsonTables.entries, bind, Except.bind, isSegments, dated, isMetrics,
      isCount]
    rfl
  · intro date
    rw [Dict.get_set]
    by_cases same : calls.date = date
    · rw [if_pos same.symm, if_pos same, ← same]
      exact Int.cast_add _ _
    · rw [if_neg fun wrong => same wrong.symm, if_neg same, add_zero]

/-- The phone calls of each date are gathered, the whole part of each row. -/
theorem phoneCalls_rows {rows : List (JsonValue ℚ)} {calls : List CampaignCalls}
    (areRows : List.Forall₂ (IsCampaignRow tables floatOf intOf calendar) rows calls)
    (byDate : Dict Date Int) :
    ∃ last, rows.foldlM (addPhoneCalls tables (exactNumerals floatOf intOf) calendar) byDate =
        .ok last ∧
      ∀ date, (((last.get date).getD 0 : Int) : ℚ) = (((byDate.get date).getD 0 : Int) : ℚ) +
        totalOn CampaignCalls.date (fun row => (⌊row.phoneCalls⌋ : ℚ)) date calls := by
  induction areRows generalizing byDate with
  | nil => exact ⟨byDate, rfl, fun date => (add_zero _).symm⟩
  | cons isRow areRows ih =>
    obtain ⟨next, step, gained⟩ := addPhoneCalls_row tables floatOf intOf calendar isRow byDate
    obtain ⟨last, rest, total⟩ := ih next
    refine ⟨last, ?_, fun date => ?_⟩
    · rw [List.foldlM_cons, step]
      exact rest
    · rw [total, gained, totalOn, add_assoc]

/-- What a row of the account is normalized to. -/
structure IsFacts (callLeads : Dict Date ℚ) (phoneCalls : Dict Date Int) (day : AccountDay)
    (facts : DailyFacts ℚ) : Prop where
  date : facts.date = day.date
  conversions : facts.conversions = ⌊day.conversions⌋
  leads : facts.leads = max (⌊day.conversions⌋ - ⌊(callLeads.get day.date).getD 0⌋) 0 +
    (phoneCalls.get day.date).getD 0

/-- One row of the account. -/
theorem dayFacts_row {row : JsonValue ℚ} {day : AccountDay}
    (isRow : IsAccountRow tables floatOf intOf calendar row day)
    (callLeads : Dict Date ℚ) (phoneCalls : Dict Date Int)
    (callsNonneg : 0 ≤ (callLeads.get day.date).getD 0) :
    ∃ facts, dayFacts tables (exactNumerals floatOf intOf) calendar callLeads phoneCalls row =
        .ok facts ∧ IsFacts callLeads phoneCalls day facts := by
  obtain ⟨segments, metrics, ⟨entries, text, rfl, isSegments, isMetrics, isDate, present, parsed⟩,
    isCount, ⟨impressions, readsImpressions⟩, ⟨clicks, readsClicks⟩, ⟨micros, readsMicros⟩,
    ⟨revenue, readsRevenue⟩⟩ := isRow
  have dated := parseDate_text tables calendar isDate present parsed
  have counted := readCount_of_readFloat tables floatOf intOf day.nonneg isCount
  have calls : callConversionsOn (exactNumerals floatOf intOf) callLeads day.date =
      .ok ⌊(callLeads.get day.date).getD 0⌋ := by
    unfold callConversionsOn
    cases found : callLeads.get day.date with
    | none => exact congrArg Except.ok Int.floor_zero.symm
    | some x =>
      rw [found] at callsNonneg
      exact congrArg Except.ok (wholePart_nonneg callsNonneg)
  refine ⟨⟨day.date, impressions, clicks, roundEven ((micros / 1000000 : ℚ) * 100) / 100,
    ⌊day.conversions⌋, _, roundEven (revenue * 100) / 100⟩, ?_, rfl, rfl, rfl⟩
  simp only [dayFacts, JsonTables.entries, bind, Except.bind, isMetrics, isSegments, dated,
    Option.getD_some, counted, calls, readsImpressions, readsClicks, readsMicros, readsRevenue,
    orRaise, Except.mapError]
  rfl

end Reading

/-! ## Every result -/

section Results

variable (tables : JsonTables ℚ) (floatOf : String → Option ℚ) (intOf : String → Option Int)
  (calendar : Calendar) (report : Report)

/-- The normalized rows are the facts of the days of the account, one for each. -/
theorem normalize_results {payload : List (String × JsonValue ℚ)}
    {callConversionRows phoneCallRows : List (JsonValue ℚ)}
    (isPayload : IsPayload tables floatOf intOf calendar payload report.account)
    (areCategories : List.Forall₂ (IsCategoryRow tables floatOf intOf calendar)
      callConversionRows report.categories)
    (areCampaigns : List.Forall₂ (IsCampaignRow tables floatOf intOf calendar)
      phoneCallRows report.campaigns) :
    ∃ rows callLeads phoneCalls,
      normalize tables (exactNumerals floatOf intOf) calendar payload callConversionRows
        phoneCallRows = .ok rows ∧
      (∀ date, (callLeads.get date).getD 0 = report.callConversions date) ∧
      (∀ date, (((phoneCalls.get date).getD 0 : Int) : ℚ) =
        totalOn CampaignCalls.date (fun row => (⌊row.phoneCalls⌋ : ℚ)) date report.campaigns) ∧
      List.Forall₂ (IsFacts callLeads phoneCalls) report.account rows := by
  obtain ⟨callLeads, readsCalls, calls⟩ :=
    callLeads_rows tables floatOf intOf calendar areCategories Dict.empty
  obtain ⟨phoneCalls, readsPhones, phones⟩ :=
    phoneCalls_rows tables floatOf intOf calendar areCampaigns Dict.empty
  have callTotals (date : Date) : (callLeads.get date).getD 0 = report.callConversions date :=
    (calls date).trans (zero_add _)
  have phoneTotals (date : Date) : (((phoneCalls.get date).getD 0 : Int) : ℚ) =
      totalOn CampaignCalls.date (fun row => (⌊row.phoneCalls⌋ : ℚ)) date report.campaigns :=
    (phones date).trans (by rw [Dict.get_empty, Option.getD_none, Int.cast_zero, zero_add])
  have callsNonneg (date : Date) : 0 ≤ (callLeads.get date).getD 0 := by
    rw [callTotals]
    refine totalOn_nonneg (fun row => ?_) report.categories date
    unfold CategoryCount.asCall
    split
    · exact row.nonneg
    · exact le_refl 0
  obtain ⟨split, whole, areBatches⟩ := isPayload
  have read : ∃ parts, (batches payload).mapM (batchFacts tables (exactNumerals floatOf intOf)
        calendar callLeads phoneCalls) = .ok parts ∧
      List.Forall₂ (List.Forall₂ (IsFacts callLeads phoneCalls)) split parts := by
    refine Traverse.mapM_forall₂ (areBatches.imp fun batch part isBatch => ?_)
    obtain ⟨found, isFound, areDays⟩ := isBatch
    have facts : batchFacts tables (exactNumerals floatOf intOf) calendar callLeads phoneCalls
        batch = found.mapM (dayFacts tables (exactNumerals floatOf intOf) calendar callLeads
          phoneCalls) := by
      rw [batchFacts, isFound]
      rfl
    have each : List.Forall₂ (fun row day => ∃ facts, dayFacts tables
        (exactNumerals floatOf intOf) calendar callLeads phoneCalls row = .ok facts ∧
          IsFacts callLeads phoneCalls day facts) found part := by
      refine areDays.imp fun row day isRow => ?_
      have nonneg := callsNonneg day.date
      exact dayFacts_row tables floatOf intOf calendar isRow callLeads phoneCalls nonneg
    rw [facts]
    exact Traverse.mapM_forall₂ each
  obtain ⟨parts, readsParts, areParts⟩ := read
  refine ⟨parts.flatten, callLeads, phoneCalls, ?_, callTotals, phoneTotals, ?_⟩
  · rw [normalize, readsCalls]
    dsimp only [bind, Except.bind]
    rw [readsPhones]
    dsimp only
    rw [readsParts]
    rfl
  · rw [← whole]
    exact List.rel_flatten areParts

/-- The leads of a day are right exactly when the parts that are cut off make no difference. -/
theorem leads_iff {c k p w : ℚ} (covered : k ≤ c) :
    (max (⌊c⌋ - ⌊k⌋) 0 : Int) + w = ⌊c - k⌋ + p ↔
      p - w = if Int.fract k ≤ Int.fract c then 0 else 1 := by
  have kept : max (⌊c⌋ - ⌊k⌋) 0 = ⌊c⌋ - ⌊k⌋ :=
    max_eq_left (sub_nonneg.mpr (Int.floor_le_floor covered))
  rw [kept, floor_sub_floor]
  split
  · push_cast
    constructor <;> intro same <;> linarith
  · push_cast
    constructor <;> intro same <;> linarith

/-- **Google Ads leads drop no call and count none twice**, exactly when every date that is counted
has a row of the account and the parts that are cut off make no difference. -/
theorem honest_iff {payload : List (String × JsonValue ℚ)}
    {callConversionRows phoneCallRows : List (JsonValue ℚ)}
    (isPayload : IsPayload tables floatOf intOf calendar payload report.account)
    (areCategories : List.Forall₂ (IsCategoryRow tables floatOf intOf calendar)
      callConversionRows report.categories)
    (areCampaigns : List.Forall₂ (IsCampaignRow tables floatOf intOf calendar)
      phoneCallRows report.campaigns) :
    (∃ rows, normalize tables (exactNumerals floatOf intOf) calendar payload callConversionRows
        phoneCallRows = .ok rows ∧ report.Honest rows) ↔ report.Aligned := by
  obtain ⟨rows, callLeads, phoneCalls, normalized, calls, phones, areFacts⟩ :=
    normalize_results tables floatOf intOf calendar report isPayload areCategories areCampaigns
  have conversions (day : AccountDay) (inside : day ∈ report.account) :
      report.conversions day.date = day.conversions := totalOn_of_mem report.oneDay inside
  have fractions (date : Date) : report.callFractions date =
      report.phoneCalls date - (((phoneCalls.get date).getD 0 : Int) : ℚ) := by
    have split :=
      totalOn_split CampaignCalls.date CampaignCalls.phoneCalls report.campaigns date
    rw [phones, Report.callFractions, Report.phoneCalls, split]
    exact (add_sub_cancel_left _ _).symm
  have leads (day : AccountDay) (inside : day ∈ report.account) (facts : DailyFacts ℚ)
      (isFacts : IsFacts callLeads phoneCalls day facts) :
      ((facts.leads : ℚ) = ⌊report.conversions facts.date - report.callConversions facts.date⌋ +
          report.phoneCalls facts.date ∧
        facts.conversions = ⌊report.conversions facts.date⌋) ↔
      report.callFractions day.date =
        if Int.fract (report.callConversions day.date) ≤ Int.fract day.conversions then 0
        else 1 := by
    have covered : report.callConversions day.date ≤ day.conversions := by
      rw [← conversions day inside]
      exact report.covered day.date
    rw [isFacts.date, conversions day inside, isFacts.conversions, isFacts.leads, calls,
      fractions, ← leads_iff covered, Int.cast_add]
    exact ⟨fun both => both.1, fun same => ⟨same, rfl⟩⟩
  have backward : List.Forall₂ (fun facts day => IsFacts callLeads phoneCalls day facts) rows
      report.account := areFacts.flip
  constructor
  · rintro ⟨_, same, present, right⟩
    obtain rfl := Except.ok.inj (normalized.symm.trans same)
    refine ⟨fun date counted => ?_, fun day inside => ?_⟩
    · obtain ⟨facts, member, rfl⟩ := present date counted
      obtain ⟨day, inside, isFacts⟩ := Traverse.exists_of_forall₂ backward member
      exact ⟨day, inside, isFacts.date.symm⟩
    · obtain ⟨facts, member, isFacts⟩ := Traverse.exists_of_forall₂ areFacts inside
      exact (leads day inside facts isFacts).mp (right facts member)
  · rintro ⟨present, aligned⟩
    refine ⟨rows, normalized, fun date counted => ?_, fun facts member => ?_⟩
    · obtain ⟨day, inside, rfl⟩ := present date counted
      obtain ⟨facts, member, isFacts⟩ := Traverse.exists_of_forall₂ areFacts inside
      exact ⟨facts, member, isFacts.date⟩
    · obtain ⟨day, inside, isFacts⟩ := Traverse.exists_of_forall₂ backward member
      exact (leads day inside facts isFacts).mpr (aligned day inside)

end Results

/-! ## Sample results -/

/-- Tables for the sample results. -/
def sampleTables : JsonTables ℚ where
  isZero value := value = 0
  numberType _ := "float"
  repr _ := ""

/-- The day of the sample results. -/
def sampleDay : Date := ⟨2026, 9, 2, by decide⟩

/-- A calendar that knows the sample day. -/
def sampleCalendar : Calendar where
  today := sampleDay
  fromIsoFormat text := if text = "2026-09-02" then some sampleDay else none

/-- A row of the sample day. -/
def sampleRow (segments metrics : List (String × JsonValue ℚ)) : JsonValue ℚ :=
  .dict [("segments", .dict (("date", .str "2026-09-02") :: segments)), ("metrics", .dict metrics)]

/-- A row of the sample day has its parts. -/
theorem sampleRow_parts (segments : List (String × JsonValue ℚ)) (key : String)
    (value : JsonValue ℚ) :
    HasParts sampleTables sampleCalendar (sampleRow segments [(key, value)])
      (("date", .str "2026-09-02") :: segments) [(key, value)] sampleDay :=
  ⟨_, "2026-09-02", rfl, rfl, rfl, rfl, by decide, by decide⟩

/-- Three phone calls on the sample day. -/
def sampleCalls : CampaignCalls := ⟨sampleDay, 3, by decide⟩

/-- The row of the phone calls. -/
theorem sampleCalls_row : IsCampaignRow sampleTables (fun _ => none) (fun _ => none) sampleCalendar
    (sampleRow [] [("phoneCalls", .number 3)]) sampleCalls := by
  have truth : sampleTables.truthy (.number 3) = true := by decide
  refine ⟨_, _, sampleRow_parts [] "phoneCalls" (.number 3), if_pos truth, (if_pos truth).trans ?_⟩
  exact congrArg Except.ok (wholePart_nonneg (by decide))

/-- The calls of a day on which the account has no row. -/
def callsOnly : Report where
  account := []
  categories := []
  campaigns := [sampleCalls]
  oneDay := List.nodup_nil
  covered _ := le_refl 0

/-- The calls of a day without a row of the account are dropped. -/
theorem calls_without_row_dropped :
    IsPayload sampleTables (fun _ => none) (fun _ => none) sampleCalendar [("data", .list [])]
        callsOnly.account ∧
      List.Forall₂ (IsCampaignRow sampleTables (fun _ => none) (fun _ => none) sampleCalendar)
        [sampleRow [] [("phoneCalls", .number 3)]] callsOnly.campaigns ∧
      ¬∃ rows, normalize sampleTables (exactNumerals (fun _ => none) fun _ => none) sampleCalendar
        [("data", .list [])] [] [sampleRow [] [("phoneCalls", .number 3)]] = .ok rows ∧
          callsOnly.Honest rows := by
  have isPayload : IsPayload sampleTables (fun _ => none) (fun _ => none) sampleCalendar
      [("data", .list [])] callsOnly.account := ⟨[], rfl, .nil⟩
  have areCampaigns : List.Forall₂
      (IsCampaignRow sampleTables (fun _ => none) (fun _ => none) sampleCalendar)
      [sampleRow [] [("phoneCalls", .number 3)]] callsOnly.campaigns := .cons sampleCalls_row .nil
  refine ⟨isPayload, areCampaigns, ?_⟩
  rintro ⟨rows, normalized, present, -⟩
  obtain ⟨other, _, _, same, -, -, areFacts⟩ := normalize_results sampleTables (fun _ => none)
    (fun _ => none) sampleCalendar callsOnly isPayload .nil areCampaigns
  obtain rfl := Except.ok.inj (normalized.symm.trans same)
  obtain ⟨row, member, -⟩ := present sampleDay
    (.inr (.inr ⟨sampleCalls, List.mem_singleton_self _, rfl, by decide⟩))
  cases areFacts
  cases member

/-- A day with two conversions, one of them a call. -/
def sampleReport : Report where
  account := [⟨sampleDay, 2, by decide⟩]
  categories := [⟨sampleDay, phoneCallLeadCategory, 1, by decide⟩]
  campaigns := [sampleCalls]
  oneDay := List.nodup_singleton _
  covered date := by
    by_cases same : sampleDay = date
    · rw [← same]
      decide +kernel
    · have none (x : ℚ) : (if sampleDay = date then x else 0) + 0 = 0 := by
        rw [if_neg same, zero_add]
      exact (none _).trans_le (none _).symm.le

/-- The leads of the sample day are its conversions that were no calls, and its calls. -/
theorem sample_report_honest :
    ∃ rows, normalize sampleTables (exactNumerals (fun _ => none) fun _ => none) sampleCalendar
      [("data", .list [.dict [("results", .list [sampleRow [] [("conversions", .number 2)]])]])]
      [sampleRow [("conversionActionCategory", .str phoneCallLeadCategory)]
        [("conversions", .number 1)]]
      [sampleRow [] [("phoneCalls", .number 3)]] = .ok rows ∧ sampleReport.Honest rows := by
  have two : sampleTables.truthy (.number 2) = true := by decide
  have one : sampleTables.truthy (.number 1) = true := by decide
  have row := sampleRow_parts [] "conversions" (.number 2)
  have category := sampleRow_parts [("conversionActionCategory", .str phoneCallLeadCategory)]
    "conversions" (.number 1)
  refine (honest_iff sampleTables (fun _ => none) (fun _ => none) sampleCalendar sampleReport
    ⟨[sampleReport.account], rfl, .cons ⟨_, rfl, .cons ⟨_, _, row, if_pos two, ⟨0, rfl⟩, ⟨0, rfl⟩,
      ⟨0, rfl⟩, ⟨0, rfl⟩⟩ .nil⟩ .nil⟩
    (.cons ⟨_, _, category, rfl, if_pos one⟩ .nil) (.cons sampleCalls_row .nil)).mpr ⟨?_, ?_⟩
  · rintro date (counted | ⟨row, member, isDate, -⟩ | ⟨row, member, isDate, -⟩)
    · exact counted
    · obtain rfl := List.mem_singleton.mp member
      exact ⟨_, List.mem_singleton_self _, isDate⟩
    · obtain rfl := List.mem_singleton.mp member
      exact ⟨_, List.mem_singleton_self _, isDate⟩
  · rintro day member
    obtain rfl := List.mem_singleton.mp member
    decide +kernel

end MarketingOS.Integrations.GoogleAds
