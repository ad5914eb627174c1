import MarketingOS.Base.Regex
import MarketingOS.Core.Text
import MarketingOS.Services.Intelligence.Ingestion

/-!
# Directives agent

The directives of a build: what the model proposed, or what the structured client fields say when
there is no usable reply, and after them the prohibitions the capability net finds. A reply is
given as the items of its list, each value as the agent reads it.
-/
namespace MarketingOS.Intelligence

/-- `Directive`. -/
structure Directive where
  type : DirectiveType
  category : String
  text : String
  tier : DirectiveTier
  rank : Int
  confidence : Rat
  capabilityFlags : Flags
  sourceKey : Option String
deriving DecidableEq

/-- `_TIER_BY_TYPE` — lower rank is higher priority. -/
def tierByType : DirectiveType → DirectiveTier × Int
  | .mustNot => (.mandatory, 0)
  | .must => (.required, 10)
  | .constraint => (.required, 20)
  | .avoid => (.preference, 30)
  | .prefer => (.preference, 40)

/-- The nearest integer, and the even one of two that are as near. -/
def roundHalfEven (x : Rat) : Int :=
  let below := x.floor
  if x - below < 1 / 2 then below
  else if x - below = 1 / 2 ∧ below % 2 = 0 then below
  else below + 1

/-- `_normalize` -/
def normalize (dtype category text : String) (confidence : Rat) (sourceKey : Option String) :
    Option Directive :=
  if text = "" then none
  else
    let type := (Enumeration.ofValue dtype).getD DirectiveType.prefer
    let (tier, rank) :=
      if confidence < 1 / 2 ∧ (tierByType type).1 = .preference then (.inferred, 50)
      else tierByType type
    some {
      type
      category := if category = "" then "general" else category
      text := clip 2000 text
      tier
      rank
      confidence := roundHalfEven (confidence * 1000) / 1000
      capabilityFlags := .empty
      sourceKey }

/-! ## Structured fields -/

/-- `kind_map` of `_fallback`, by the stored value of a kind. -/
def kindMap (kind : String) : DirectiveType × String :=
  if kind = "banned" then (.mustNot, "content")
  else if kind = "required" then (.must, "content")
  else if kind = "rule" then (.constraint, "process")
  else if kind = "brand-voice" then (.prefer, "brand")
  else (.constraint, "general")

/-- `_fallback` — directives from the structured client fields. -/
def fallback (inputs : ClientInputs) : List Directive :=
  (inputs.complianceEntries.filterMap fun e =>
    let (dtype, category) := kindMap (Enumeration.value e.kind)
    normalize (Enumeration.value dtype) category (strip e.text) (9 / 10)
      (some "field:compliance")) ++
  (if filled inputs.client.brandVoice then
    (normalize (Enumeration.value DirectiveType.prefer) "brand"
      ("Match the brand voice: " ++ strip (inputs.client.brandVoice.getD "")) (9 / 10)
      (some "field:brand")).toList
  else [])

/-! ## Model replies -/

/-- One dictionary of the `directives` list of a reply, its values read with their defaults. -/
structure ReplyItem where
  type : String
  category : String
  text : String
  confidence : Rat

/-- `_extract_ai` — `reply` is nothing when the call failed or the reply holds no list. -/
def extractAi (inputs : ClientInputs) (reply : Option (List ReplyItem)) : List Directive :=
  match reply with
  | none => fallback inputs
  | some items =>
    let out := items.filterMap fun item =>
      normalize item.type item.category (strip item.text) item.confidence none
    if out.isEmpty then fallback inputs else out

/-! ## Capability net -/

/-- One of `_CAPABILITY_RULES`. -/
structure CapabilityRule where
  pattern : Regex
  flag : String
  value : Json
  text : String
  category : String

/-- Neither a full stop nor a line break: `[^.\n]`. -/
def sameSentence (c : Char) : Bool := c ≠ '.' ∧ c ≠ '\n'

open Regex in
/-- The pattern of `ai_text_generation`. -/
def aiTextPattern : Regex :=
  anyOf
    (inOrder
      (anyOf (word "no") [word "not", word "never", word "without",
        inOrder (word "don") [opt (oneOf "'"), word "t"],
        inOrder (word "do") [run isSpace none, word "n", opt (oneOf "o'"), word "t"],
        word "do not", word "avoid"])
      [boundary, run sameSentence (some 30), word "ai", opt (oneOf "- "), word "generated"])
    [inOrder (word "no ai") [boundary, run sameSentence (some 20),
      anyOf (word "text") [word "content", word "copy"]],
    inOrder (word "human") [oneOf "- ", word "written only"]]

open Regex in
/-- `_CAPABILITY_RULES` -/
def capabilityRules : List CapabilityRule :=
  [⟨aiTextPattern, "ai_text_generation", .bool false,
      "Never use AI-generated text in deliverables", "content"⟩,
    ⟨inOrder (word "no stock ") [anyOf (word "photos") [word "images", word "imagery"]],
      "stock_imagery", .bool false, "Do not use stock photos or imagery", "design"⟩,
    ⟨anyOf (word "no emoji") [word "without emoji"], "emoji", .bool false, "Do not use emoji",
      "content"⟩]

/-- The text the net scans: what there is of the corpus, the brand voice, the colour guidelines and
the compliance entries, a line each. -/
def haystack (corpus : String) (inputs : ClientInputs) : String :=
  "\n".intercalate
    (([some corpus, inputs.client.brandVoice, inputs.client.colorGuidelines].map (·.getD "") ++
      inputs.complianceEntries.map ComplianceEntry.text).filter fun text => text ≠ "")

/-- The directive of a rule. -/
def netDirective (rule : CapabilityRule) : Option Directive :=
  (normalize (Enumeration.value DirectiveType.mustNot) rule.category rule.text 1 none).map fun d =>
    { d with capabilityFlags := Dict.empty.set rule.flag rule.value }

/-- A rule's pattern is found in the text the net scans. -/
def CapabilityRule.found (tables : TextTables) (corpus : String) (inputs : ClientInputs)
    (rule : CapabilityRule) : Bool :=
  rule.pattern.search (fun c => tables.isAlnum c || c == '_') (haystack corpus inputs)

/-- `_capability_net` -/
def capabilityNet (tables : TextTables) (corpus : String) (inputs : ClientInputs) :
    List Directive :=
  (capabilityRules.filter (CapabilityRule.found tables corpus inputs)).filterMap netDirective

/-- The directives of the model or of the structured fields. -/
def proposed (configured : Bool) (corpus : String) (inputs : ClientInputs)
    (reply : Option (List ReplyItem)) : List Directive :=
  if configured ∧ strip corpus ≠ "" then extractAi inputs reply else fallback inputs

/-- `extract` — the capability net runs after either source of directives. -/
def extract (tables : TextTables) (configured : Bool) (corpus : String) (inputs : ClientInputs)
    (reply : Option (List ReplyItem)) : List Directive :=
  proposed configured corpus inputs reply ++ capabilityNet tables corpus inputs

end MarketingOS.Intelligence
