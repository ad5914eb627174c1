import Mathlib.Data.Rat.Defs
import MarketingOS.Base.Dict
import MarketingOS.Base.TtlCache
import MarketingOS.Core.Exceptions
import MarketingOS.Models.Values

/-!
# Model routing

Every AI feature belongs to a task category, and a category runs on the model its row names. The
rows are read into a dictionary, which each worker keeps for a while. The catalog of models is
given.
-/
namespace MarketingOS

namespace AiFeature

/-- `BRAND_EXTRACTION` -/
def brandExtraction : String := "onboarding.brand_extraction"
/-- `CONSISTENCY_CHECK` -/
def consistencyCheck : String := "onboarding.consistency_check"
/-- `CONTENT_REVIEW` -/
def contentReview : String := "content.review"
/-- `CLIENT_SUMMARY` -/
def clientSummary : String := "intelligence.client_summary"
/-- `CLIENT_DIRECTIVES` -/
def clientDirectives : String := "intelligence.client_directives"
/-- `PROJECT_AI` -/
def projectAi : String := "project_ai.chat"
/-- `COMMAND_AGENT` -/
def commandAgent : String := "assistant.command"
/-- `PLAN_GENERATION` -/
def planGeneration : String := "plan.generate"
/-- `PLAN_CHAT_INTENT` -/
def planChatIntent : String := "plan.chat_intent"
/-- `DAY_CHAT` -/
def dayChat : String := "day.chat"
/-- `ASSISTANT` -/
def assistant : String := "assistant.global"
/-- `REPORT_NARRATIVE` -/
def reportNarrative : String := "report.narrative"
/-- `RECOMMENDATION` -/
def recommendation : String := "recommendation.generate"
/-- `HEALTH_SCORE` -/
def healthScore : String := "dashboard.health_score"
/-- `EXECUTIVE_BRIEF` -/
def executiveBrief : String := "dashboard.executive_brief"
/-- `WATCHDOG` -/
def watchdog : String := "dashboard.watchdog"
/-- `OPPORTUNITY` -/
def opportunity : String := "dashboard.opportunity"
/-- `MISSING_INFO` -/
def missingInfo : String := "onboarding.missing_info"

end AiFeature

/-- `AiTaskCategory` -/
inductive AiTaskCategory where
  | classification
  | extraction
  | summarization
  | structuredGeneration
  | analysis
  | conversational
  | reasoningComplex
deriving DecidableEq, Repr

/-- The text of a category. -/
def AiTaskCategory.value : AiTaskCategory → String
  | classification => "classification"
  | extraction => "extraction"
  | summarization => "summarization"
  | structuredGeneration => "structured_generation"
  | analysis => "analysis"
  | conversational => "conversational"
  | reasoningComplex => "reasoning_complex"

/-- `AiModelRoute` -/
structure AiModelRoute where
  id : Uuid
  taskCategory : String
  modelId : Option String
  fallbackModelId : Option String
  isActive : Bool
  notes : Option String
  updatedBy : Option Uuid
  createdAt : Timestamp
  updatedAt : Timestamp
deriving DecidableEq

/-- The table `ai_model_routes`, with its unique constraint. -/
structure RouteTable where
  rows : List AiModelRoute
  distinct : (rows.map AiModelRoute.taskCategory).Nodup
deriving DecidableEq

namespace ModelRouter

open AiTaskCategory in
/-- `ALL_CATEGORIES` -/
def allCategories : List String :=
  [classification, extraction, summarization, structuredGeneration, analysis, conversational,
    reasoningComplex].map value

/-- `FEATURE_CATEGORY` -/
def featureCategory : Dict String AiTaskCategory := .ofList [
  (AiFeature.brandExtraction, .extraction),
  (AiFeature.consistencyCheck, .classification),
  (AiFeature.missingInfo, .classification),
  (AiFeature.clientSummary, .summarization),
  (AiFeature.clientDirectives, .summarization),
  (AiFeature.watchdog, .analysis),
  (AiFeature.healthScore, .analysis),
  (AiFeature.executiveBrief, .analysis),
  (AiFeature.recommendation, .analysis),
  (AiFeature.opportunity, .analysis),
  (AiFeature.contentReview, .classification),
  (AiFeature.reportNarrative, .summarization),
  (AiFeature.planGeneration, .structuredGeneration),
  (AiFeature.projectAi, .conversational),
  (AiFeature.assistant, .conversational),
  (AiFeature.dayChat, .conversational),
  (AiFeature.commandAgent, .conversational),
  (AiFeature.planChatIntent, .classification)]

/-- `category_for` -/
def categoryFor (feature : Option String) : Option String :=
  match feature with
  | none => none
  | some name => if name = "" then none else (featureCategory.get name).map AiTaskCategory.value

/-- `_CACHE_TTL_SECONDS` -/
def cacheTtl : Timestamp := 30 * second

/-- A row `_load_active_routes` selects, as an entry. -/
def activeRoute (row : AiModelRoute) : Option (String × String) :=
  if row.isActive then row.modelId.map fun modelId => (row.taskCategory, modelId) else none

/-- `_load_active_routes` — nothing is routed where the table cannot be read. -/
def loadActiveRoutes : Option RouteTable → Dict String String
  | none => .empty
  | some table => .ofList (table.rows.filterMap activeRoute)

/-- `model_for`, by the value of `_cache` that `_active_routes` returns. -/
def modelFor (cache : Option (Dict String String)) (feature : Option String) :
    Outcome (Option String) :=
  match categoryFor feature with
  | none => .ok none
  | some category =>
    match cache with
    | none => raised .attributeError
    | some routes => .ok (routes.get category)

/-! ## The catalog -/

/-- `CatalogModel` — the price is `input_per_million`. -/
structure CatalogModel where
  id : String
  inputPerMillion : Option ℚ
deriving DecidableEq

/-- `get_model` -/
def getModel (catalog : List CatalogModel) (modelId : String) : Option CatalogModel :=
  catalog.find? fun model => model.id = modelId

/-- `(m.input_per_million, m.id)` of one entry before that of another. -/
def cheaper (model other : ℚ × String) : Bool :=
  model.1 < other.1 || (model.1 = other.1 && model.2 < other.2)

/-- `cheapest_model`, as its price and its identifier. -/
def cheapestModel (catalog : List CatalogModel) : Option (ℚ × String) :=
  match catalog.filterMap fun model => model.inputPerMillion.map fun price => (price, model.id) with
  | [] => none
  | first :: rest => some (rest.foldl (fun best model => if cheaper model best then model else best)
      first)

/-- `bootstrap_model_id` -/
def bootstrapModelId (catalog : List CatalogModel) : Option String :=
  (cheapestModel catalog).map Prod.snd

/-! ## What is routed -/

/-- A table routes a category to a model. -/
def Routes (table : RouteTable) (category modelId : String) : Prop :=
  ∃ row ∈ table.rows, row.taskCategory = category ∧ row.isActive = true ∧
    row.modelId = some modelId

/-- A row selected is an entry of its category. -/
theorem activeRoute_eq_some {row : AiModelRoute} {category modelId : String} :
    activeRoute row = some (category, modelId) ↔
      row.taskCategory = category ∧ row.isActive = true ∧ row.modelId = some modelId := by
  unfold activeRoute
  split
  · next active =>
    rw [Option.map_eq_some_iff]
    constructor
    · rintro ⟨named, stored, same⟩
      obtain ⟨rfl, rfl⟩ := Prod.mk.inj same
      exact ⟨rfl, active, stored⟩
    · rintro ⟨rfl, -, stored⟩
      exact ⟨modelId, stored, rfl⟩
  · next inactive =>
    constructor
    · intro h
      cases h
    · exact fun h => absurd h.2.1 inactive

/-- No category is selected twice. -/
theorem keys_activeRoutes (table : RouteTable) :
    ((table.rows.filterMap activeRoute).map Prod.fst).Nodup := by
  refine List.Nodup.sublist ?_ table.distinct
  induction table.rows with
  | nil => exact List.Sublist.slnil
  | cons row rows ih =>
    rw [List.map_cons]
    cases selected : activeRoute row with
    | none =>
      rw [List.filterMap_cons_none selected]
      exact ih.cons _
    | some entry =>
      rw [List.filterMap_cons_some selected, List.map_cons, (activeRoute_eq_some.mp selected).1]
      exact ih.cons_cons _

/-- What is loaded of a table is what it routes. -/
theorem get_loadActiveRoutes {table : RouteTable} {category modelId : String} :
    (loadActiveRoutes (some table)).get category = some modelId ↔
      Routes table category modelId := by
  constructor
  · intro found
    obtain ⟨row, inside, selected⟩ := List.mem_filterMap.mp (Dict.mem_of_get_ofList found)
    exact ⟨row, inside, activeRoute_eq_some.mp selected⟩
  · rintro ⟨row, inside, selected⟩
    exact Dict.get_ofList_of_mem (keys_activeRoutes table)
      (List.mem_filterMap.mpr ⟨row, inside, activeRoute_eq_some.mpr selected⟩)

end ModelRouter

end MarketingOS
