import Mathlib.Data.String.Basic
import MarketingOS.Ai.ModelRouter
import MarketingOS.Base.StableSort
import MarketingOS.Base.TtlCache
import MarketingOS.Services.Onboarding

/-!
# Model routes

Administrators list the routes of the task categories, which adds the missing ones, and change them.
The workers of the application share the table of routes, and each reads it through a cache of its
own, which a change drops in the worker that makes it.
-/
namespace MarketingOS

/-- `AiModelRouteUpdate` -/
structure AiModelRouteUpdate where
  modelId : BoundedText 1 80
  fallbackModelId : Option (BoundedText 0 80)
  isActive : Bool := true
  notes : Option (BoundedText 0 500)

/-- What a request draws: the clock, identifiers, and the catalog as each lookup finds it. -/
structure RouteDraw where
  now : Timestamp
  routeId : Nat → Uuid
  catalog : Nat → List ModelRouter.CatalogModel

namespace AiModelRouteService

open ModelRouter

/-! ## Rows -/

/-- The row of a category that is written. -/
def save (table : RouteTable) (row : AiModelRoute) : RouteTable :=
  ⟨Table.put AiModelRoute.taskCategory row.taskCategory (some row) table.rows,
    Table.nodup_put row table.distinct⟩

/-- `get_by_category` -/
def getByCategory (table : RouteTable) (category : String) : Option AiModelRoute :=
  Table.get AiModelRoute.taskCategory table.rows category

/-- What the database takes of the texts of a row. -/
def storable (row : AiModelRoute) : Bool :=
  [row.modelId, row.fallbackModelId, row.notes].all ClientRecord.holdsText &&
    [row.modelId, row.fallbackModelId].all fun text => text.all fun text => text.length ≤ 80

/-- `repo.add` — the row of a category that has none. -/
def add (table : RouteTable) (row : AiModelRoute) : Outcome RouteTable :=
  if !Table.has AiModelRoute.id table.rows row.id && storable row then .ok (save table row)
  else raised .dbapiError

/-- `AiModelRoute(task_category=...)` -/
def newRoute (category : String) (id : Uuid) (now : Timestamp) : AiModelRoute where
  id := id
  taskCategory := category
  modelId := none
  fallbackModelId := none
  isActive := true
  notes := none
  updatedBy := none
  createdAt := now
  updatedAt := now

/-! ## Listing -/

/-- The row of a category nobody has configured. -/
def bootstrapped (category : String) (modelId : Option String) (id : Uuid) (now : Timestamp) :
    AiModelRoute :=
  { newRoute category id now with
    modelId
    isActive := modelId.isSome
    notes := some (if modelId.any fun model => model ≠ "" then
        "Bootstrapped from the cheapest available model — not yet tuned by an admin."
      else
        "Not configured yet — the model catalog was unreachable when this " ++
          "category was first seeded. Pick a model below.") }

/-- The loop of `list_routes`: the categories that are left, and how many rows it has added. -/
def selfHeal (draw : RouteDraw) : List String → Nat → RouteTable → Outcome RouteTable
  | [], _, table => .ok table
  | category :: rest, added, table =>
    if (getByCategory table category).isSome then selfHeal draw rest added table
    else do
      let modelId := bootstrapModelId (draw.catalog added)
      let table ← add table (bootstrapped category modelId (draw.routeId added) draw.now)
      selfHeal draw rest (added + 1) table

/-- `list_routes` -/
def listRoutes (table : RouteTable) (draw : RouteDraw) : Outcome (List AiModelRoute) × RouteTable :=
  match selfHeal draw allCategories 0 table with
  | .error exc => (.error exc, table)
  | .ok healed => (.ok (StableSort.sortBy AiModelRoute.taskCategory healed.rows), healed)

/-! ## Updating -/

/-- The columns an update assigns. -/
def columns (row : AiModelRoute) :
    Option String × Option String × Bool × Option String × Option Uuid :=
  (row.modelId, row.fallbackModelId, row.isActive, row.notes, row.updatedBy)

/-- The assignments of `update_route`. -/
def assign (data : AiModelRouteUpdate) (updatedBy : Uuid) (row : AiModelRoute) : AiModelRoute :=
  { row with
    modelId := some data.modelId.val
    fallbackModelId := data.fallbackModelId.map fun text => text.val
    isActive := data.isActive
    notes := data.notes.map fun text => text.val
    updatedBy := some updatedBy }

/-- `updated_at` moves when some column of the row changed. -/
def touch (now : Timestamp) (before after : AiModelRoute) : AiModelRoute :=
  if columns after = columns before then after else { after with updatedAt := now }

/-- The row `update_route` commits, and the table with it. -/
def commitRoute (table : RouteTable) (category : String) (data : AiModelRouteUpdate)
    (updatedBy : Uuid) (draw : RouteDraw) : Outcome (AiModelRoute × RouteTable) :=
  match getByCategory table category with
  | none =>
    let row := assign data updatedBy (newRoute category (draw.routeId 0) draw.now)
    (add table row).map fun table => (row, table)
  | some route =>
    let row := touch draw.now route (assign data updatedBy route)
    if storable row then .ok (row, save table row) else raised .dbapiError

/-- Whether an update names a fallback model that is not in the catalog. -/
def unknownFallback (data : AiModelRouteUpdate) (catalog : List CatalogModel) : Bool :=
  data.fallbackModelId.any fun model => model.val ≠ "" && (getModel catalog model.val).isNone

/-- `update_route` -/
def updateRoute (table : RouteTable) (category : String) (data : AiModelRouteUpdate)
    (updatedBy : Uuid) (draw : RouteDraw) : Outcome (AiModelRoute × RouteTable) :=
  if category ∉ allCategories then notFound ("Unknown task category '" ++ category ++ "'.")
  else if (getModel (draw.catalog 0) data.modelId.val).isNone then
    badRequest ("'" ++ data.modelId.val ++ "' is not in OpenRouter's current model catalog. " ++
      "See GET /admin/ai-model-routes/available-models.")
  else if unknownFallback data (draw.catalog 1) then
    badRequest ("'" ++ (data.fallbackModelId.elim "" fun model => model.val) ++
      "' is not in OpenRouter's current model catalog.")
  else commitRoute table category data updatedBy draw

/-! ## The workers -/

/-- A request of an administrator. -/
inductive RouteRequest where
  | listRoutes (draw : RouteDraw)
  | updateRoute (category : String) (data : AiModelRouteUpdate) (updatedBy : Uuid)
      (draw : RouteDraw)

/-- The table after a request, and whether `invalidate_cache` is called after it: listing adds rows
and does not call it. -/
def serve (table : RouteTable) : RouteRequest → RouteTable × Bool
  | .listRoutes draw => ((AiModelRouteService.listRoutes table draw).2, false)
  | .updateRoute category data updatedBy draw =>
    match AiModelRouteService.updateRoute table category data updatedBy draw with
    | .error _ => (table, false)
    | .ok (_, table) => (table, true)

/-- The cache of `_active_routes`. -/
def routeCache : TtlCache.Setup RouteTable (Dict String String) RouteRequest where
  load := loadActiveRoutes
  ttl := cacheTtl
  serve := serve

/-- The workers of the application over one table, with their threads. -/
abbrev Workers (ω θ : Type) : Type := TtlCache.Fleet ω θ RouteTable (Dict String String)

/-- Runs of the workers: requests of administrators, and calls of `model_for` step by step. -/
abbrev workers (ω θ : Type) [DecidableEq ω] [DecidableEq θ] :
    Machine (Workers ω θ) (TtlCache.Label ω θ RouteRequest) :=
  TtlCache.machine routeCache

end AiModelRouteService

end MarketingOS
