import MarketingOS.Services.Plan

/-!
# Supporting links

The links of a task: a bounded number of them, each added at a position that is counted from the
links the task has.
-/
namespace MarketingOS

/-- `PlanTaskAssetCreate` -/
structure PlanTaskAssetCreate where
  url : BoundedText 1 2000
  label : Option (BoundedText 0 maxLongLine)
deriving DecidableEq

/-- `task.assets` -/
def Tables.assetsOf (t : Tables) (taskId : Uuid) : List PlanTaskAsset :=
  t.planTaskAssets.filter fun asset => asset.taskId = taskId

namespace PlanService

/-- `_MAX_ASSETS_PER_TASK` -/
def maxAssetsPerTask : Nat := 20

/-- `next_asset_position` — how many links the task has. -/
def nextAssetPosition (t : Tables) (taskId : Uuid) : Nat := (t.assetsOf taskId).length

/-- `PlanTaskRepository.add_asset` — the label column holds 200 characters, and an identifier that
is taken is refused. -/
def insertAsset (t : Tables) (asset : PlanTaskAsset) : Outcome Tables :=
  if fits 200 asset.label ∧ ¬Table.has PlanTaskAsset.id t.planTaskAssets asset.id then
    flush { t with planTaskAssets := t.planTaskAssets ++ [asset] }
  else raised .dbapiError

/-- `add_asset` -/
def addAsset (tick : Tick) (db : Database) (clientId taskId : Uuid) (data : PlanTaskAssetCreate) :
    Outcome Database := do
  let task ← getTask db.tables clientId taskId
  if maxAssetsPerTask ≤ (db.tables.assetsOf task.id).length then
    badRequest s!"A task can have at most {maxAssetsPerTask} supporting links."
  else
    let t ← insertAsset db.tables
      { id := tick.rowId
        taskId := task.id
        url := data.url.val
        label := data.label.map Subtype.val
        position := nextAssetPosition db.tables task.id
        createdAt := tick.now }
    commit t

/-- The key a link is found by. -/
def assetKey (asset : PlanTaskAsset) : Uuid × Uuid := (asset.taskId, asset.id)

/-- `remove_asset` -/
def removeAsset (db : Database) (clientId taskId assetId : Uuid) : Outcome Database := do
  let _ ← getTask db.tables clientId taskId
  match Table.get assetKey db.tables.planTaskAssets (taskId, assetId) with
  | none => notFound "Supporting link not found."
  | some asset =>
    let t ← flush { db.tables with
      planTaskAssets := Table.remove PlanTaskAsset.id asset.id db.tables.planTaskAssets }
    commit t

end PlanService

end MarketingOS
