import Mathlib.Data.List.Nodup
import Mathlib.Data.List.Perm.Subperm
import MarketingOS.Base.Machine
import MarketingOS.Services.PlanLinks
import MarketingOS.Verif.Approval

/-!
# The order of supporting links

The links of a task ascend in the order they were added: their positions differ, and every link was
added above those that are still there. A position is counted from the links of the task, so this
holds exactly as long as no link is added to a task in which a removed link has left a gap.
-/
namespace MarketingOS.PlanLinks

open PlanService

/-! ## The machine -/

/-- A request about the links of a task. -/
inductive Label where
  | add (tick : Tick) (clientId taskId : Uuid) (data : PlanTaskAssetCreate)
  | remove (clientId taskId assetId : Uuid)

/-- The request. -/
def perform (db : Database) : Label → Outcome Database
  | .add tick clientId taskId data => addAsset tick db clientId taskId data
  | .remove clientId taskId assetId => removeAsset db clientId taskId assetId

/-- The requests on the links, from a board without any. A request that raises changes nothing. -/
def machine : Machine Database Label where
  start db := db.tables.planTaskAssets = []
  next db label :=
    match perform db label with
    | .ok db' => some db'
    | .error _ => some db

/-- The positions of the links of a task, in the order they were added. -/
def positions (t : Tables) (taskId : Uuid) : List Nat :=
  (t.assetsOf taskId).map PlanTaskAsset.position

/-- Positions ascend in the order the links were added, and no task has too many links. -/
structure Ordered (t : Tables) : Prop where
  ascending : ∀ taskId, (positions t taskId).Pairwise (· < ·)
  capped : ∀ taskId, (t.assetsOf taskId).length ≤ maxAssetsPerTask

/-- Below every link of a task there is a link at every position. -/
def Gapless (t : Tables) (taskId : Uuid) : Prop :=
  ∀ p ∈ positions t taskId, ∀ q < p, q ∈ positions t taskId

/-- A request for a link the service accepts: the task is there and has room, the label fits its
column and the identifier is new. -/
def Accepted (t : Tables) (tick : Tick) (clientId taskId : Uuid) (data : PlanTaskAssetCreate) :
    Prop :=
  (t.getTask clientId taskId).isSome ∧ (t.assetsOf taskId).length < maxAssetsPerTask ∧
    fits 200 (data.label.map Subtype.val) ∧ ¬Table.has PlanTaskAsset.id t.planTaskAssets tick.rowId

/-- A link is only added to a task without gaps. -/
def FillsNoGap : Machine.Guard Database Label := fun db label =>
  match label with
  | .add tick clientId taskId data =>
    Accepted db.tables tick clientId taskId data → Gapless db.tables taskId
  | .remove _ _ _ => True

/-! ## Positions -/

/-- Different numbers all lie below their count exactly when there is no gap below any of them. -/
theorem below_length_iff {l : List Nat} (nodup : l.Nodup) :
    (∀ p ∈ l, p < l.length) ↔ ∀ p ∈ l, ∀ q < p, q ∈ l := by
  constructor
  · intro below p inside q smaller
    have within : l ⊆ List.range l.length := fun n member => List.mem_range.mpr (below n member)
    have all : l.Perm (List.range l.length) :=
      (List.subperm_of_subset nodup within).perm_of_length_le (by simp)
    exact all.mem_iff.mpr (List.mem_range.mpr (smaller.trans (below p inside)))
  · intro filled p inside
    have within : List.range (p + 1) ⊆ l := by
      intro q member
      obtain smaller | rfl := Nat.lt_succ_iff_lt_or_eq.mp (List.mem_range.mp member)
      · exact filled p inside q smaller
      · exact inside
    have count := (List.subperm_of_subset List.nodup_range within).length_le
    rw [List.length_range] at count
    exact count

/-! ## The requests -/

/-- The links after a commit are those before it. -/
theorem assets_commit {t : Tables} {db : Database} (done : commit t = .ok db) :
    db.tables.planTaskAssets = t.planTaskAssets := by
  unfold commit at done
  split at done
  · rw [← Except.ok.inj done]
    rfl
  · cases done

/-- Other links meet the same constraints. -/
theorem commit_assets (db : Database) (assets : List PlanTaskAsset) :
    ∃ db', (flush { db.tables with planTaskAssets := assets } >>= commit) = .ok db' ∧
      db'.tables.planTaskAssets = assets := by
  have valid : Tables.Consistent { db.tables with planTaskAssets := assets } := db.consistent
  unfold flush
  rw [if_pos valid, Outcome.ok_bind]
  unfold commit
  rw [dif_pos valid]
  exact ⟨_, rfl, rfl⟩

/-- A link that is accepted is added above the number of links of its task. -/
theorem addAsset_of_accepted {db : Database} {tick : Tick} {clientId taskId : Uuid}
    {data : PlanTaskAssetCreate} (accepted : Accepted db.tables tick clientId taskId data) :
    ∃ db' asset, addAsset tick db clientId taskId data = .ok db' ∧ asset.taskId = taskId ∧
      asset.position = (db.tables.assetsOf taskId).length ∧
      db'.tables.planTaskAssets = db.tables.planTaskAssets ++ [asset] := by
  obtain ⟨there, room, short, fresh⟩ := accepted
  obtain ⟨task, found⟩ := Option.isSome_iff_exists.mp there
  obtain rfl : task.id = taskId := congrArg Prod.fst (Table.get_key found)
  unfold addAsset getTask
  rw [found, Outcome.ok_bind, if_neg (Nat.not_le.mpr room), insertAsset, if_pos ⟨short, fresh⟩]
  obtain ⟨db', done, assets⟩ := commit_assets db (db.tables.planTaskAssets ++ [_])
  exact ⟨db', _, done, rfl, rfl, assets⟩

/-- A link that is not accepted is refused. -/
theorem addAsset_of_refused {db : Database} {tick : Tick} {clientId taskId : Uuid}
    {data : PlanTaskAssetCreate} (refused : ¬Accepted db.tables tick clientId taskId data) :
    ∃ exc, addAsset tick db clientId taskId data = .error exc := by
  unfold addAsset getTask
  cases found : db.tables.getTask clientId taskId with
  | none => exact ⟨_, rfl⟩
  | some task =>
    obtain rfl : task.id = taskId := congrArg Prod.fst (Table.get_key found)
    rw [Outcome.ok_bind]
    split
    · exact ⟨_, rfl⟩
    · next room =>
      rw [insertAsset, if_neg]
      · exact ⟨_, rfl⟩
      · rintro ⟨short, fresh⟩
        exact refused ⟨by rw [found]; rfl, Nat.not_le.mp room, short, fresh⟩

/-- Removing a link leaves links that were there, in their order. -/
theorem removeAsset_sublist {db db' : Database} {clientId taskId assetId : Uuid}
    (done : removeAsset db clientId taskId assetId = .ok db') :
    db'.tables.planTaskAssets.Sublist db.tables.planTaskAssets := by
  obtain ⟨task, -, rest⟩ := Outcome.bind_ok.mp done
  split at rest
  · cases rest
  · next asset found =>
    obtain ⟨db'', done', assets⟩ := commit_assets db
      (Table.remove PlanTaskAsset.id asset.id db.tables.planTaskAssets)
    obtain rfl := Except.ok.inj (rest.symm.trans done')
    rw [assets]
    exact List.filter_sublist

/-- Fewer links of a board in order are in order. -/
theorem Ordered.sublist {t t' : Tables} (ordered : Ordered t)
    (fewer : t'.planTaskAssets.Sublist t.planTaskAssets) : Ordered t' := by
  have each (taskId : Uuid) : (t'.assetsOf taskId).Sublist (t.assetsOf taskId) := fewer.filter _
  constructor
  · exact fun taskId =>
      (ordered.ascending taskId).sublist ((each taskId).map PlanTaskAsset.position)
  · exact fun taskId => (each taskId).length_le.trans (ordered.capped taskId)

/-- A link added above all others of its task is in order; one that is not is out of order. -/
theorem ordered_append_iff {t t' : Tables} (ordered : Ordered t) {asset : PlanTaskAsset}
    (position : asset.position = (t.assetsOf asset.taskId).length)
    (room : (t.assetsOf asset.taskId).length < maxAssetsPerTask)
    (assets : t'.planTaskAssets = t.planTaskAssets ++ [asset]) :
    Ordered t' ↔ Gapless t asset.taskId := by
  have own : t'.assetsOf asset.taskId = t.assetsOf asset.taskId ++ [asset] := by
    simp [Tables.assetsOf, assets]
  have others (taskId : Uuid) (apart : asset.taskId ≠ taskId) :
      t'.assetsOf taskId = t.assetsOf taskId := by
    simp [Tables.assetsOf, assets, apart]
  have nodup : (positions t asset.taskId).Nodup :=
    (ordered.ascending asset.taskId).imp Nat.ne_of_lt
  have count : (positions t asset.taskId).length = (t.assetsOf asset.taskId).length :=
    List.length_map ..
  have below : Gapless t asset.taskId ↔
      ∀ p ∈ positions t asset.taskId, p < asset.position := by
    rw [position, ← count, below_length_iff nodup]
    rfl
  have list : positions t' asset.taskId = positions t asset.taskId ++ [asset.position] := by
    rw [positions, own, List.map_append, List.map_singleton, positions]
  rw [below]
  constructor
  · intro after p inside
    have ascending := after.ascending asset.taskId
    rw [list, List.pairwise_append] at ascending
    exact ascending.2.2 p inside _ (List.mem_singleton_self _)
  · intro above
    constructor
    · intro taskId
      by_cases same : asset.taskId = taskId
      · rw [← same, list, List.pairwise_append]
        refine ⟨ordered.ascending _, List.pairwise_singleton _ _, ?_⟩
        intro p inside q last
        rw [List.mem_singleton.mp last]
        exact above p inside
      · rw [positions, others taskId same]
        exact ordered.ascending taskId
    · intro taskId
      by_cases same : asset.taskId = taskId
      · rw [← same, own, List.length_append, List.length_singleton]
        exact room
      · rw [others taskId same]
        exact ordered.capped taskId

/-- A request keeps links in order exactly when it adds none to a task with a gap. -/
theorem step_ordered_iff (db : Database) (label : Label) (db' : Database)
    (ordered : Ordered db.tables) (taken : machine.next db label = some db') :
    Ordered db'.tables ↔ FillsNoGap db label := by
  cases label with
  | add tick clientId taskId data =>
    by_cases accepted : Accepted db.tables tick clientId taskId data
    · obtain ⟨after, asset, done, rfl, position, assets⟩ := addAsset_of_accepted accepted
      simp only [machine, perform, done, Option.some.injEq] at taken
      subst taken
      rw [ordered_append_iff ordered position accepted.2.1 assets]
      exact ⟨fun gapless _ => gapless, fun fills => fills accepted⟩
    · obtain ⟨exc, done⟩ := addAsset_of_refused accepted
      simp only [machine, perform, done, Option.some.injEq] at taken
      subst taken
      exact ⟨fun _ wrong => absurd wrong accepted, fun _ => ordered⟩
  | remove clientId taskId assetId =>
    cases done : removeAsset db clientId taskId assetId with
    | error exc =>
      simp only [machine, perform, done, Option.some.injEq] at taken
      subst taken
      exact ⟨fun _ => trivial, fun _ => ordered⟩
    | ok after =>
      simp only [machine, perform, done, Option.some.injEq] at taken
      subst taken
      exact ⟨fun _ => trivial, fun _ => ordered.sublist (removeAsset_sublist done)⟩

/-- **The order of links.** From a board without links, the links of every task stay in order in
every state of a run exactly when the run adds no link to a task with a gap. -/
theorem links_ordered_iff {db last : Database} {labels : List Label} (blank : machine.start db)
    (run : machine.Run Machine.anyStep db labels last) :
    (∀ early middle, early <+: labels → machine.Run Machine.anyStep db early middle →
      Ordered middle.tables) ↔ machine.Run FillsNoGap db labels last := by
  have none (taskId : Uuid) : db.tables.assetsOf taskId = [] := by
    rw [Tables.assetsOf, show db.tables.planTaskAssets = [] from blank]
    rfl
  refine Machine.Run.passes_iff step_ordered_iff run ⟨?_, ?_⟩
  · intro taskId
    rw [positions, none]
    exact .nil
  · intro taskId
    rw [none]
    exact Nat.zero_le _

/-- Add a link to the sample task under an identifier. -/
def sampleAdd (rowId : Uuid) : Label :=
  .add ⟨0, rowId, 0, 0⟩ 2 3 ⟨⟨"https://example.com", by decide⟩, none⟩

/-- Two links are in order. -/
theorem two_links_ordered :
    ∃ db, machine.Run FillsNoGap (sampleDatabase []) [sampleAdd 20, sampleAdd 21] db ∧
      ∀ early middle, early <+: [sampleAdd 20, sampleAdd 21] →
        machine.Run Machine.anyStep (sampleDatabase []) early middle → Ordered middle.tables := by
  have run : machine.Run FillsNoGap (sampleDatabase []) [sampleAdd 20, sampleAdd 21] _ :=
    .cons (fun _ => by unfold Gapless; decide) rfl
      (.cons (fun _ => by unfold Gapless; decide) rfl (.nil _))
  have blank : machine.start (sampleDatabase []) := rfl
  exact ⟨_, run, (links_ordered_iff blank run.any).mpr run⟩

/-- After the first of two links is removed, the next one is added at the position of the other. -/
theorem positions_collide :
    ∃ db, machine.start (sampleDatabase []) ∧
      machine.Run Machine.anyStep (sampleDatabase [])
        [sampleAdd 20, sampleAdd 21, .remove 2 3 20, sampleAdd 22] db ∧
      positions db.tables 3 = [1, 1] :=
  ⟨_, rfl, .cons trivial rfl (.cons trivial rfl (.cons trivial rfl (.cons trivial rfl (.nil _)))),
    by decide⟩

end MarketingOS.PlanLinks
