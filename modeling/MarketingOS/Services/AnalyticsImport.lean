import Mathlib.Algebra.Order.Round
import Mathlib.Data.Rat.Floor
import MarketingOS.Base.Csv
import MarketingOS.Base.Upsert
import MarketingOS.Core.Exceptions
import MarketingOS.Models.Enums
import MarketingOS.Models.Values
import MarketingOS.Schemas.Common
import MarketingOS.Services.ClientRollup

/-!
# CSV import of daily analytics

The bytes of a file become text, records, validated rows and one statement. The texts pydantic
reads as dates and numbers are a parameter, and so is the floating-point quotient of the rollup; a
float may be infinite or no number, which a numeric column of a fixed precision refuses or holds.
-/
namespace MarketingOS.AnalyticsImport

/-! ## Rows -/

/-- A float, and what a numeric column holds. -/
inductive Amount where
  | finite (x : ℚ)
  | infinite (negative : Bool)
  | nan
deriving DecidableEq

namespace Amount

/-- What compares less than zero; nothing does that is no number. -/
def negative : Amount → Bool
  | finite x => x < 0
  | infinite negative => negative
  | nan => false

/-- The sum of a numeric column. -/
def add : Amount → Amount → Amount
  | finite x, finite y => finite (x + y)
  | nan, _ | _, nan => nan
  | infinite left, infinite right => if left = right then infinite left else nan
  | infinite negative, finite _ | finite _, infinite negative => infinite negative

/-- An amount in a column of two decimals. -/
def column : Amount → Amount
  | finite x => finite (ClientRollup.hundredths x)
  | other => other

/-- Whether a column with so many digits before the point holds an amount. -/
def Fits (digits : Nat) : Amount → Prop
  | finite x => |x| < 10 ^ digits
  | infinite _ => False
  | nan => True

instance (digits : Nat) : (amount : Amount) → Decidable (amount.Fits digits)
  | finite x => inferInstanceAs (Decidable (|x| < 10 ^ digits))
  | infinite _ => .isFalse id
  | nan => .isTrue trivial

end Amount

/-- Whether an integer column of so many bits holds a number. -/
def FitsInt (bits : Nat) (x : Int) : Prop := -2 ^ (bits - 1) ≤ x ∧ x < 2 ^ (bits - 1)

instance (bits : Nat) (x : Int) : Decidable (FitsInt bits x) :=
  inferInstanceAs (Decidable (_ ∧ _))

/-- `_METRICS` of a row. -/
structure Figures where
  impressions : Int
  clicks : Int
  conversions : Int
  leads : Int
  spend : Amount
  revenue : Amount
deriving DecidableEq

/-- The figures in the columns of `analytics_daily`. -/
def Figures.column (figures : Figures) : Figures :=
  { figures with spend := figures.spend.column, revenue := figures.revenue.column }

/-- Whether every column holds its figure: `BigInteger`, `Integer`, `Numeric(12, 2)` and
`Numeric(14, 2)`. -/
def Figures.Fits (figures : Figures) : Prop :=
  FitsInt 64 figures.impressions ∧ FitsInt 64 figures.clicks ∧ FitsInt 32 figures.conversions ∧
    FitsInt 32 figures.leads ∧ figures.spend.Fits 10 ∧ figures.revenue.Fits 12

instance (figures : Figures) : Decidable figures.Fits := inferInstanceAs (Decidable (_ ∧ _))

/-- `AnalyticsDailyIn` — its source is read and never used. -/
structure DailyIn where
  date : Date
  platform : SocialPlatform
  figures : Figures
deriving DecidableEq

/-! ## Validation -/

/-- What pydantic makes of texts, with the messages of what it refuses. -/
structure Readers where
  date : String → Except String Date
  int : String → Except String Int
  float : String → Except String Amount
  /-- The message about a text that is no platform. -/
  noPlatform : String

/-- The place of an error and its message. -/
abbrev Refusal : Type := String × String

/-- A required field. -/
def required {α : Type} (payload : Dict String String) (name : String)
    (read : String → Except String α) : Except Refusal α :=
  match payload.get name with
  | none => .error (name, "Field required")
  | some text => (read text).mapError fun message => (name, message)

/-- `Field(0, ge=0)` -/
def metric {α : Type} (payload : Dict String String) (name : String)
    (read : String → Except String α) (zero : α) (negative : α → Bool) : Except Refusal α :=
  match payload.get name with
  | none => .ok zero
  | some text =>
    match read text with
    | .error message => .error (name, message)
    | .ok value =>
      if negative value then .error (name, "Input should be greater than or equal to 0")
      else .ok value

/-- A member by its value. -/
def readPlatform (readers : Readers) (text : String) : Except String SocialPlatform :=
  match Enumeration.ofValue text with
  | some platform => .ok platform
  | none => .error readers.noPlatform

/-- The fields of `AnalyticsDailyIn`. -/
def fieldNames : List String := ["date", "platform", "impressions", "clicks", "conversions",
  "leads", "spend", "revenue", "source"]

/-- `AnalyticsDailyIn(**payload)` — the row, or the first of the errors. -/
def validate (readers : Readers) (payload : Dict String String) : Except Refusal DailyIn := do
  let date ← required payload "date" readers.date
  let platform ← required payload "platform" (readPlatform readers)
  let impressions ← metric payload "impressions" readers.int 0 (· < 0)
  let clicks ← metric payload "clicks" readers.int 0 (· < 0)
  let conversions ← metric payload "conversions" readers.int 0 (· < 0)
  let leads ← metric payload "leads" readers.int 0 (· < 0)
  let spend ← metric payload "spend" readers.float (.finite 0) Amount.negative
  let revenue ← metric payload "revenue" readers.float (.finite 0) Amount.negative
  match (payload.entries.map Prod.fst).find? fun name => name ∉ fieldNames with
  | some name => .error (name, "Extra inputs are not permitted")
  | none => .ok ⟨date, platform, ⟨impressions, clicks, conversions, leads, spend, revenue⟩⟩

/-- The payload of a record: its named columns that hold a text, stripped and not empty. -/
def payload (record : Csv.Record) : Dict String String :=
  Dict.ofList (record.entries.filterMap fun
    | (some name, .text value) =>
      if name = "" ∨ strip value = "" then none else some (name, strip value)
    | _ => none)

/-- The row of a record. -/
def row (readers : Readers) (record : Csv.Record) : Except Refusal DailyIn :=
  validate readers (payload record)

/-! ## The file -/

/-- `raw.decode("utf-8-sig")` — one byte order mark is dropped. -/
def decode (raw : ByteArray) : Option String :=
  if (raw.extract 0 3).data.toList = [0xEF, 0xBB, 0xBF] then String.fromUTF8? (raw.extract 3 raw.size)
  else String.fromUTF8? raw

/-- What keeps an import from returning. -/
inductive Failure where
  | app (error : AppError)
  /-- `csv.Error` -/
  | csv (error : Csv.Error)
  /-- The database refuses a statement. -/
  | database
deriving DecidableEq

/-- A file that is opened: the records that can be read, and the error they end with. -/
structure Opened where
  records : List Csv.Record
  failure : Option Csv.Error

/-- The file up to its header. -/
def openFile (raw : ByteArray) : Except Failure Opened :=
  match decode raw with
  | none => .error (.app ⟨.badRequest, "File is not valid UTF-8 text."⟩)
  | some text =>
    match Csv.rows Csv.excel text with
    | ([], some failure) => .error (.csv failure)
    | ([], none) => .error (.app ⟨.badRequest,
        "CSV must have a header row with at least 'date' and 'platform'."⟩)
    | (header :: rows, failure) =>
      if "date" ∈ header then .ok ⟨Csv.records header rows, failure⟩
      else .error (.app ⟨.badRequest,
        "CSV must have a header row with at least 'date' and 'platform'."⟩)

/-- `_CSV_MAX_ROWS` -/
def csvMaxRows : Nat := 5000

/-- The message about a record, by its row number. -/
def rowError (i : Nat) (refusal : Refusal) : String :=
  "Row " ++ toString i ++ ": " ++ refusal.1 ++ " — " ++ refusal.2

/-- The loop over the records. -/
def collect (readers : Readers) (failure : Option Csv.Error) :
    Nat → List DailyIn → List String → List Csv.Record →
      Except Failure (List DailyIn × List String)
  | _, rows, errors, [] =>
    match failure with
    | some failure => .error (.csv failure)
    | none => .ok (rows, errors)
  | i, rows, errors, record :: records =>
    if csvMaxRows ≤ rows.length then
      .ok (rows, errors ++ ["Stopped at 5000 rows; the rest were ignored."])
    else
      match row readers record with
      | .ok row => collect readers failure (i + 1) (rows ++ [row]) errors records
      | .error refusal =>
        collect readers failure (i + 1) rows (errors ++ [rowError i refusal]) records

/-! ## The table -/

/-- A row of `analytics_daily`. -/
structure FactRow where
  id : Uuid
  clientId : Uuid
  date : Date
  platform : SocialPlatform
  figures : Figures
  source : Option String
deriving DecidableEq

/-- The upsert of daily facts. -/
def FactRow.upsert : Upsert FactRow (Uuid × Date × SocialPlatform) Uuid where
  key row := (row.clientId, row.date, row.platform)
  id := FactRow.id
  withId id row := { row with id := id }
  setColumns stored excluded :=
    { stored with
      figures := excluded.figures
      source := excluded.source }
  key_withId _ _ := rfl
  id_withId _ _ := rfl
  withId_withId _ _ _ := rfl
  covers := fun ⟨_, _, _, _, _, _⟩ ⟨_, _, _, _, _, _⟩ same => by cases same; rfl

/-- The rollup columns of the client. -/
structure Rollup where
  spendTotal : Amount
  leadsTotal : Int
  cpl : Amount
deriving DecidableEq

/-- Whether every column holds its figure: `Numeric(14, 2)`, `Integer` and `Numeric(10, 2)`. -/
def Rollup.Fits (rollup : Rollup) : Prop :=
  rollup.spendTotal.Fits 12 ∧ FitsInt 32 rollup.leadsTotal ∧ rollup.cpl.Fits 8

instance (rollup : Rollup) : Decidable rollup.Fits := inferInstanceAs (Decidable (_ ∧ _))

/-- The daily facts, and the rollup of the client that imports. -/
structure Store where
  facts : List FactRow
  rollup : Rollup

/-- `refresh_client_rollups`; `quotient` is `round(spend / leads, 2)`. -/
def refresh (quotient : Amount → Int → Amount) (clientId : Uuid) (facts : List FactRow) :
    Rollup :=
  let own := facts.filter fun fact => fact.clientId = clientId
  let spend := own.foldr (fun fact total => fact.figures.spend.add total) (.finite 0)
  let leads := own.foldr (fun fact total => fact.figures.leads + total) 0
  { spendTotal := spend.column
    leadsTotal := leads
    cpl := if leads = 0 then .finite 0 else quotient spend leads }

/-- The values `bulk_upsert` sends for one row, as its columns would hold them. -/
def factValues (clientId id : Uuid) (row : DailyIn) : FactRow where
  id := id
  clientId := clientId
  date := row.date
  platform := row.platform
  figures := row.figures.column
  source := some "csv"

/-- The values of all rows; `ids` are the identifiers that are drawn. -/
def allValues (clientId : Uuid) (ids : Nat → Uuid) (rows : List DailyIn) : List FactRow :=
  rows.zipIdx.map fun entry => factValues clientId (ids entry.2) entry.1

/-- The values of a batch by date and platform. -/
def dedup (values : List FactRow) : Dict (Date × String) FactRow :=
  Dict.ofList (values.map fun value => ((value.date, Enumeration.value value.platform), value))

/-- `ingest` — one transaction, which is rolled back when the database refuses a value. -/
def ingest (quotient : Amount → Int → Amount) (clientId : Uuid) (ids : Nat → Uuid)
    (rows : List DailyIn) (store : Store) : Store × Except Failure Nat :=
  let values := (dedup (allValues clientId ids rows)).values
  if ∀ value ∈ values, value.figures.Fits then
    match FactRow.upsert.statement store.facts values with
    | none => (store, .error .database)
    | some facts =>
      let rollup := refresh quotient clientId facts
      if rollup.Fits then (⟨facts, rollup⟩, .ok values.length) else (store, .error .database)
  else (store, .error .database)

/-- `AnalyticsCsvImportResponse` -/
structure Response where
  upserted : Nat
  skipped : Nat
  errors : List String
deriving DecidableEq

/-- `import_csv` -/
def importCsv (readers : Readers) (quotient : Amount → Int → Amount) (clientId : Uuid)
    (ids : Nat → Uuid) (raw : ByteArray) (store : Store) : Store × Except Failure Response :=
  match openFile raw with
  | .error failure => (store, .error failure)
  | .ok file =>
    -- Row 1 is the header.
    match collect readers file.failure 2 [] [] file.records with
    | .error failure => (store, .error failure)
    | .ok (rows, errors) =>
      let response (upserted : Nat) : Response := ⟨upserted, errors.length, errors.take 50⟩
      if rows.isEmpty then (store, .ok (response 0))
      else
        let (store, upserted) := ingest quotient clientId ids rows store
        (store, upserted.map response)

end MarketingOS.AnalyticsImport
