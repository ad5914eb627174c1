import MarketingOS.Ai.Parsers
import MarketingOS.Core.Exceptions
import MarketingOS.Utils.Page

/-!
# Brand extraction

A brand theme from what one collection pass gathered of a website and what the model answers about
it. The pass itself and the model are given: the signals, and the object the answer holds when
there is one. Without an answer the theme is the signals alone.
-/
namespace MarketingOS

/-- `_Signals.source` — which fetch succeeded. -/
inductive SignalSource where
  | scrapingbee
  | render
  | scrape
  | none
deriving DecidableEq, Repr

/-- `_Signals` — the text and the screenshot only go to the model. -/
structure Signals where
  colors : List String
  fonts : List String
  themeColor : Option String
  description : Option String
  source : SignalSource
  identity : Option Web.IdentitySignals

/-- `BrandExtraction` -/
structure BrandExtraction where
  summary : String
  colors : List String
  fonts : List String
  tone : Option String
  imagery : Option String
  suggestedIndustry : Option String
  suggestedBusinessType : Option String
  aiGenerated : Bool
deriving DecidableEq

/-- `[item for item in value if isinstance(item, str)]`; nothing where `value` is no iterable. -/
def JsonValue.textItems {ν : Type} : JsonValue ν → Option (List String)
  | .list items => some (items.filterMap fun
    | .str text => some text
    | _ => Option.none)
  | .dict entries => some (entries.map Prod.fst)
  | .str text => some (text.toList.map String.singleton)
  | _ => Option.none

namespace BrandExtractionService

/-- What the code takes from Python's built-in types. -/
structure Builtins (ν : Type) where
  /-- `text.lower()` -/
  lower : String → String
  /-- `str(value or "")` of a value that is neither a text nor `None`. -/
  strOr : JsonValue ν → String

variable {ν : Type} (builtins : Builtins ν)

/-- `_clean` -/
def clean : JsonValue ν → Option String
  | .str text => if strip text = "" then none else some (strip text)
  | _ => none

/-- The loop of `_dedupe`, with the keys it has seen. -/
def dedupeFrom (lower : String → String) (seen : List String) : List String → List String
  | [] => []
  | item :: rest =>
    let key := lower (strip item)
    if key = "" || seen.contains key then dedupeFrom lower seen rest
    else strip item :: dedupeFrom lower (key :: seen) rest

/-- `_dedupe` -/
def dedupe (lower : String → String) (items : List String) : List String :=
  dedupeFrom lower [] items

/-- `_default_summary`, of a website. -/
def defaultSummary (website : String) : String :=
  "Draft brand theme based on " ++ website ++ ". Review and refine before saving."

/-- `left or right` -/
def orElse (left right : String) : String := if left = "" then right else left

/-- `_fallback` -/
def fallback (website : String) (colors fonts : List String) (description : Option String) :
    BrandExtraction where
  summary := clip 600 (orElse (strip (description.getD "")) (defaultSummary website))
  colors := colors.take 8
  fonts := fonts.take 8
  tone := none
  imagery := none
  suggestedIndustry := none
  suggestedBusinessType := none
  aiGenerated := false

/-- `payload.get("summary") or ""` as a text. -/
def summaryText : JsonValue ν → String
  | .str text => text
  | .none => ""
  | value => builtins.strOr value

/-- `payload.get(key, [])`, its texts. -/
def listed (payload : List (String × JsonValue ν)) (key : String) : Outcome (List String) :=
  Outcome.ofOption .typeError ((payload.lookup key).elim (some []) JsonValue.textItems)

/-- The theme of an answer. -/
def answered (website : String) (sig : Signals) (colors : List String)
    (payload : List (String × JsonValue ν)) : Outcome BrandExtraction := do
  let modelColors ← listed payload "colors"
  let modelFonts ← listed payload "fonts"
  return {
    summary := orElse (strip (summaryText builtins (JsonValue.get payload "summary")))
      (defaultSummary website)
    colors := (dedupe builtins.lower (colors ++ modelColors)).take 8
    fonts := (dedupe builtins.lower (sig.fonts ++ modelFonts)).take 8
    tone := clean (JsonValue.get payload "tone")
    imagery := clean (JsonValue.get payload "imagery")
    suggestedIndustry := clean (JsonValue.get payload "suggested_industry")
    suggestedBusinessType := clean (JsonValue.get payload "suggested_business_type")
    aiGenerated := true }

/-- `_finish` — `answer` is what `_analyze` returns. It is asked when something was fetched and a
model is configured. -/
def finish (configured : Bool) (website : String) (sig : Signals)
    (answer : Option (List (String × JsonValue ν))) : Outcome BrandExtraction :=
  let colors := dedupe builtins.lower
    ((if sig.themeColor.getD "" = "" then [] else [sig.themeColor.getD ""]) ++ sig.colors)
  if sig.source = .none || !configured then
    .ok (fallback website colors sig.fonts sig.description)
  else
    match answer with
    | none => .ok (fallback website colors sig.fonts sig.description)
    | some payload => answered builtins website sig colors payload

/-- `extract_with_identity`, of what `_collect` gathered — a blank website is refused as no
source. -/
def extractWithIdentity (configured : Bool) (website : String) (sig : Signals)
    (answer : Option (List (String × JsonValue ν))) : Outcome BrandExtraction :=
  if strip website = "" then raised .validationError
  else finish builtins configured website sig answer

end BrandExtractionService

end MarketingOS
