import MarketingOS.Ai.Parsers
import MarketingOS.Models.Days
import MarketingOS.Models.Enums
import MarketingOS.Schemas.Common

/-!
# Plan generation agent

The items the model proposes for a range of days, cleaned and clamped, or the placeholder items
when it proposes none that can be used. The prompt only reaches the provider, whose answer is an
argument.
-/
namespace MarketingOS.PlanGenerationAgent

variable {ν : Type}

/-- What the agent raises. -/
inductive Failure where
  /-- `TypeError`, with its text. -/
  | typeError (text : String)
  /-- `OverflowError` of a day outside the calendar. -/
  | overflowError
  /-- What `json.loads` raises beside a `JSONDecodeError`. -/
  | loads
deriving DecidableEq

/-- `_VALID_PLATFORMS` -/
def validPlatforms : List String :=
  Enumeration.members.map (Enumeration.value (α := SocialPlatform))

/-- `_VALID_CATEGORIES` -/
def validCategories : List String :=
  Enumeration.members.map (Enumeration.value (α := TaskCategory))

/-- `_DEFAULT_PLATFORM` -/
def defaultPlatform : String := Enumeration.value SocialPlatform.instagram

/-- `_DEFAULT_CATEGORY` -/
def defaultCategory : String := Enumeration.value TaskCategory.content

/-- `_MAX_RANGE_ITEMS` -/
def maxRangeItems : Nat := 40

/-- `ProposedItem` — one item of the calendar, proposed or a placeholder. -/
structure ProposedItem where
  title : String
  eventDate : Date
  platform : String
  category : String
  contentFormat : Option String
  caption : Option String
  hashtags : Option String
  suggestedRole : Option String
deriving DecidableEq

/-- `_clean_str` -/
def cleanStr (maxLength : Nat) : JsonValue ν → Option String
  | .str value => if strip value = "" then none else some (clip maxLength (strip value))
  | _ => none

/-- `value if value in names else default`, where `names` is a set: a value without a hash is
refused before it is compared. -/
def oneOf (names : List String) (default : String) : JsonValue ν → Except Failure String
  | .str value => .ok (if value ∈ names then value else default)
  | .list _ => .error (.typeError "unhashable type: 'list'")
  | .dict _ => .error (.typeError "unhashable type: 'dict'")
  | _ => .ok default

/-- `_parse_one_item` -/
def parseOneItem (payload : List (String × JsonValue ν)) (eventDate : Date) :
    Except Failure (Option ProposedItem) :=
  match cleanStr 200 (JsonValue.get payload "title") with
  | none => .ok none
  | some title => do
    let platform ← oneOf validPlatforms defaultPlatform (JsonValue.get payload "platform")
    let category ← oneOf validCategories defaultCategory (JsonValue.get payload "category")
    return some
      { title := title
        eventDate := eventDate
        platform := platform
        category := category
        contentFormat := cleanStr 30 (JsonValue.get payload "content_format")
        caption := cleanStr 100000 (JsonValue.get payload "caption")
        hashtags := cleanStr 2000 (JsonValue.get payload "hashtags")
        suggestedRole := cleanStr 80 (JsonValue.get payload "suggested_role") }

/-- `start_date + timedelta(days=days)` -/
def dayAfter (startDate : Date) (days : Int) : Except Failure Date :=
  match startDate.plusDays days with
  | some date => .ok date
  | none => .error .overflowError

section Reading

variable (fromisoformat : String → Option Date)

/-- `_parse_and_clamp_date`, where nothing stands for a `ValueError` of `date.fromisoformat`. -/
def parseAndClampDate (raw : JsonValue ν) (startDate endDate : Date) : Except Failure Date :=
  let middle := dayAfter startDate (endDate.daysSince startDate / 2)
  match raw with
  | .str text =>
    match fromisoformat text with
    | some parsed => if startDate ≤ parsed ∧ parsed ≤ endDate then .ok parsed else middle
    | none => middle
  | _ => middle

/-- One turn of the loop of `_parse_items`. -/
def parseEntry (startDate endDate : Date) : JsonValue ν → Except Failure (Option ProposedItem)
  | .dict raw => do
    let eventDate ← parseAndClampDate fromisoformat (JsonValue.get raw "event_date") startDate
      endDate
    parseOneItem raw eventDate
  | _ => .ok none

/-- `_parse_items` -/
def parseItems (rawItems : List (JsonValue ν)) (startDate endDate : Date) :
    Except Failure (List ProposedItem) := do
  let parsed ← (rawItems.take maxRangeItems).mapM (parseEntry fromisoformat startDate endDate)
  return parsed.filterMap id

/-- `range(0, stop, step)` for a positive step. -/
def rangeBy (stop step : Int) : List Nat :=
  List.range' 0 ((stop + step - 1) / step).toNat step.toNat

/-- The offsets of the placeholder items from the first day. -/
def fallbackOffsets (spanDays : Int) : List Nat :=
  let step := if 10 < spanDays then 5 else max 1 (if spanDays / 6 = 0 then 1 else spanDays / 6)
  let offsets := (rangeBy spanDays step).take 6
  if offsets = [] then [0] else offsets

/-- A placeholder item. -/
def placeholder (i : Nat) (eventDate : Date) : ProposedItem where
  title := s!"Content idea #{i + 1} (draft — AI unavailable, edit before approving)"
  eventDate := eventDate
  platform := defaultPlatform
  category := defaultCategory
  contentFormat := some "static"
  caption := none
  hashtags := none
  suggestedRole := some "content creator"

/-- `_fallback_range` -/
def fallbackRange (startDate endDate : Date) : Except Failure (List ProposedItem) :=
  (fallbackOffsets (endDate.daysSince startDate + 1)).zipIdx.mapM fun entry => do
    let eventDate ← dayAfter startDate entry.1
    return placeholder entry.2 eventDate

/-- `payload.get("items")` of the parsed answer, when it is a list. -/
def rawItems : Option (List (String × JsonValue ν)) → Option (List (JsonValue ν))
  | none => none
  | some payload =>
    match JsonValue.get payload "items" with
    | .list items => some items
    | _ => none

/-- `generate_range`, where nothing stands for an answer of an unconfigured provider and for an
exception of the call. -/
def generateRange (loads : String → Except LoadsError (JsonValue ν)) (isConfigured : Bool)
    (answer : Option String) (startDate endDate : Date) : Except Failure (List ProposedItem) :=
  if !isConfigured then fallbackRange startDate endDate
  else
    match answer with
    | none => fallbackRange startDate endDate
    | some raw =>
      match parseJsonObject loads raw with
      | .error _ => .error .loads
      | .ok payload => do
        let items ←
          match rawItems payload with
          | some raws => parseItems fromisoformat raws startDate endDate
          | none => .ok []
        if items = [] then fallbackRange startDate endDate else return items

end Reading

end MarketingOS.PlanGenerationAgent
