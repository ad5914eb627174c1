import Mathlib.Tactic.ByContra
import MarketingOS.Base.Traverse
import MarketingOS.Integrations.Meta

/-!
# Complete pulls

A fetch follows the links of a sequence of pages that Graph serves, until one of its requests
fails. What it returns is compared with the rows of the whole sequence, those of the pages that
were not served with them.
-/
namespace MarketingOS.Integrations.Meta

open IntegrationService (SyncError)

variable {ν φ : Type}

/-- How a sequence of pages ends: with its last page, or with a failed request that loses the
pages from there on. -/
inductive Ending (ν : Type) where
  | complete
  | failed (answer : Answer ν) (lost : List (List (JsonValue ν)))

/-- The pages that are lost. -/
def Ending.lost : Ending ν → List (List (JsonValue ν))
  | .complete => []
  | .failed _ lost => lost

/-- A list of the account: the pages that are served, and how they end. -/
structure Listing (ν : Type) where
  pages : List (List (JsonValue ν))
  ending : Ending ν

namespace Listing

variable (listing : Listing ν)

/-- The rows of all pages, in order. -/
def rows : List (JsonValue ν) := listing.pages.flatten ++ listing.ending.lost.flatten

/-- The rows of the pages that are asked for. -/
def reached : List (JsonValue ν) := (listing.pages.take maxPages).flatten

/-- The rows of the pages that are not asked for or not served. -/
def missed : List (JsonValue ν) :=
  (listing.pages.drop maxPages).flatten ++ listing.ending.lost.flatten

end Listing

section Conditions

variable (tables : JsonTables ν)

/-- A failed answer that raises an `AppError`: the server was not reached, or it answered with an
error whose `error` field, where there is one, is an object or false. -/
def Refused : Answer ν → Prop
  | .unreachable _ => True
  | .raised _ => False
  | .response resp =>
    match resp.json with
    | .ok (.dict payload) =>
      tables.truthy (JsonValue.get payload "error") = true →
        ∃ error, JsonValue.get payload "error" = .dict error
    | .ok _ => True
    | .error none => 400 ≤ resp.statusCode
    | .error (some _) => False

/-- A failed answer that is taken for a page: a success whose body is not JSON. -/
def Blank : Answer ν → Prop
  | .response resp => resp.statusCode < 400 ∧ resp.json = .error none
  | _ => False

namespace Listing

variable (listing : Listing ν)

/-- Every request is answered with a page or a blank. -/
def Answers : Prop :=
  ∀ answer lost, listing.ending = .failed answer lost → listing.pages.length < maxPages →
    Blank answer

end Listing

end Conditions

/-! ## One request -/

section Requests

variable (tables : JsonTables ν)

/-- An `AppError`. -/
def IsAppError : SyncError → Prop
  | .auth _ | .app _ => True
  | .other _ => False

end Requests

/-! ## The loop -/

section Loop

variable (tables : JsonTables ν) (http : Request → Answer ν) (first : Request)

/-- How the loop ends with the rows it has when it asks for what is behind the pages. -/
def stop (rows : List (JsonValue ν)) : Ending ν → Except SyncError (List (JsonValue ν))
  | .complete => .ok rows
  | .failed answer _ => (readPage tables answer).map fun _ => rows

end Loop

/-! ## A whole list -/

section Lists

variable (tables : JsonTables ν) (http : Request → Answer ν)

variable {http} {listing : Listing ν} {request : Request}

end Lists

/-! ## Complete or refused -/

section Fetches

variable (tables : JsonTables ν) {http : Request → Answer ν} {listing : Listing ν}
  {request : Request}

end Fetches

/-! ## Readable rows -/

section Rows

variable (tables : JsonTables ν) (numerals : Numerals ν φ) (calendar : Calendar)

/-- Looking into a value. -/
theorem entries_unexpected (value : JsonValue ν) :
    RaisesOnly (fun exc => ¬IsAppError exc) (tables.entries value) := by
  cases value with
  | dict entries => exact raisesOnly_ok entries
  | _ => exact raisesOnly_error id

/-- Going through a value. -/
theorem iterate_unexpected (value : JsonValue ν) :
    RaisesOnly (fun exc => ¬IsAppError exc) (tables.iterate value) := by
  cases value with
  | list items => exact raisesOnly_ok items
  | dict entries => exact raisesOnly_ok _
  | str text => exact raisesOnly_ok _
  | _ => exact raisesOnly_error id

/-- Reading a number. -/
theorem number_unexpected {α : Type} (result : Except NumberError α) :
    RaisesOnly (fun exc => ¬IsAppError exc) (orRaise result) := by
  cases result with
  | ok value => exact raisesOnly_ok value
  | error failure => cases failure <;> exact raisesOnly_error id

/-- Adding a number. -/
theorem addend_unexpected {α : Type} (result : Except NumberError α) :
    RaisesOnly (fun exc => ¬IsAppError exc) (addend result) := by
  cases result with
  | ok value => exact raisesOnly_ok _
  | error failure =>
    cases failure with
    | overflowError text => exact raisesOnly_error id
    | _ => exact raisesOnly_ok _

/-- Finding out whether an action is wanted. -/
theorem wantedAction_unexpected (wanted : List String) (entries : List (String × JsonValue ν)) :
    RaisesOnly (fun exc => ¬IsAppError exc) (wantedAction tables wanted entries) := by
  unfold wantedAction
  split
  · exact raisesOnly_ok _
  · split
    · exact raisesOnly_ok _
    · exact raisesOnly_error id

/-- Reading a date. -/
theorem rowDate_unexpected (value : JsonValue ν) :
    RaisesOnly (fun exc => ¬IsAppError exc) (rowDate tables calendar value) := by
  unfold rowDate
  split
  · split
    · split
      · exact raisesOnly_error id
      · exact raisesOnly_ok _
    · exact raisesOnly_error id
  · exact raisesOnly_ok _

/-- Summing over actions. -/
theorem sumActions_unexpected (actions : JsonValue ν) (wanted : List String) :
    RaisesOnly (fun exc => ¬IsAppError exc) (sumActions tables numerals actions wanted) := by
  refine raisesOnly_bind (iterate_unexpected tables _) fun items =>
    raisesOnly_foldlM (fun total action => ?_) items 0
  refine raisesOnly_bind (entries_unexpected tables action) fun entries =>
    raisesOnly_bind (wantedAction_unexpected tables wanted entries) fun isWanted => ?_
  split
  · split
    · exact raisesOnly_ok total
    · exact raisesOnly_bind (addend_unexpected _) fun count => raisesOnly_ok _
  · exact raisesOnly_ok total

/-- Summing over action values. -/
theorem sumValues_unexpected (actionValues : JsonValue ν) (wanted : List String) :
    RaisesOnly (fun exc => ¬IsAppError exc) (sumValues tables numerals actionValues wanted) := by
  refine raisesOnly_bind (iterate_unexpected tables _) fun items => raisesOnly_bind
    (raisesOnly_foldlM (fun total action => ?_) items numerals.zero) fun total => raisesOnly_ok _
  refine raisesOnly_bind (entries_unexpected tables action) fun entries =>
    raisesOnly_bind (wantedAction_unexpected tables wanted entries) fun isWanted => ?_
  split
  · split
    · exact raisesOnly_ok _
    · refine raisesOnly_bind (addend_unexpected _) fun amount => ?_
      cases amount with
      | none => exact raisesOnly_ok _
      | some amount => exact raisesOnly_ok _
  · exact raisesOnly_ok total

/-- Normalizing a row. -/
theorem normalize_unexpected (row : JsonValue ν) :
    RaisesOnly (fun exc => ¬IsAppError exc) (normalize tables numerals calendar row) :=
  raisesOnly_bind (entries_unexpected tables row) fun _ =>
    raisesOnly_bind (rowDate_unexpected tables calendar _) fun _ =>
    raisesOnly_bind (number_unexpected _) fun _ =>
    raisesOnly_bind (number_unexpected _) fun _ =>
    raisesOnly_bind (number_unexpected _) fun _ =>
    raisesOnly_bind (sumActions_unexpected tables numerals _ leadActions) fun _ =>
    raisesOnly_bind (sumActions_unexpected tables numerals _ conversionActions) fun _ =>
    raisesOnly_bind (sumValues_unexpected tables numerals _ conversionActions) fun _ =>
    raisesOnly_ok _

end Rows

/-! ## Every pull -/

/-- The lists of an account, one for each pull. -/
structure Account (ν : Type) where
  dailyInsights : Listing ν
  campaignMetrics : Listing ν
  campaigns : Listing ν
  adSets : Listing ν
  ads : Listing ν
  recommendations : Listing ν

section Pulls

variable (tables : JsonTables ν) {http : Request → Answer ν}

end Pulls

/-! ## Sample accounts -/

/-- Tables for bodies without numbers. -/
def plainTables : JsonTables Unit where
  isZero _ := true
  numberType _ := "int"
  repr _ := ""

/-- Whole numbers, for bodies without numbers. -/
def plainNumerals : Numerals Unit Int where
  float _ := .ok 0
  int _ := .ok 0
  trunc x := .ok x
  zero := 0
  add x y := x + y
  round2 x := x
  perMillion n := .ok (n / 1000000)

/-- A day on which no text is a date. -/
def plainCalendar : Calendar where
  today := ⟨2026, 9, 1, by decide⟩
  fromIsoFormat _ := none

end MarketingOS.Integrations.Meta
