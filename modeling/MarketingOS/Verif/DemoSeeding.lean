import MarketingOS.Base.Traverse
import MarketingOS.Services.DemoData

/-!
# Demo seeding beside measured facts

The generated rows have cells of their own, since the days of a platform count differently and the
platforms differ. The rows that are kept avoid the cells of the facts, so they can be inserted once
the synthetic rows of the client are gone; and they are the same when the table was seeded before.
-/
namespace MarketingOS.DemoData

open Analytics (AnalyticsDailyIn dailyValues)
open ClientRollup (synthetic stored protectedCells)

variable {F σ : Type} {n : Numbers F σ}

/-! ## The generated cells -/

/-- A validated row has the day and the platform it is made of. -/
theorem analyticsDailyIn_cell {date : Date} {platform : SocialPlatform} {metrics : AnalyticsMetrics}
    {row : AnalyticsDailyIn} (made : analyticsDailyIn date platform metrics = some row) :
    row.date = date ∧ row.platform = platform := by
  obtain ⟨-, isRow⟩ := Option.ite_none_right_eq_some.mp made
  obtain rfl := Option.some.inj isRow
  exact ⟨rfl, rfl⟩

/-- A computation without a state that succeeds has a value. -/
theorem lift_eq_some {α : Type} {value : Option α} {s s' : σ} {x : α}
    (done : (liftM value : Draw σ α) s = some (x, s')) : value = some x := by
  obtain ⟨y, isValue, same⟩ := Option.bind_eq_some_iff.mp done
  obtain rfl : y = x := congrArg Prod.fst (Option.some.inj same)
  exact isValue

/-- What a computation returns from a state, it returns with a state. -/
theorem of_run' {α : Type} {draw : Draw σ α} {s : σ} {x : α} (done : draw.run' s = some x) :
    ∃ s', draw s = some (x, s') := by
  obtain ⟨⟨_, s'⟩, ran, rfl⟩ := Option.map_eq_some_iff.mp done
  exact ⟨s', ran⟩

/-- A generated row is of its day and of the platform of its profile. -/
theorem dailyRow_cell {profile : Profile} {scale : F} {days : Int} {today : Date} {i : Nat}
    {s s' : σ} {row : AnalyticsDailyIn}
    (made : dailyRow n profile scale days today i s = some (row, s')) :
    today.plusDays (-(days - 1 - i)) = some row.date ∧ row.platform = profile.platform := by
  obtain ⟨day, _, isDay, figures⟩ := Traverse.bind_eq_some.mp made
  obtain ⟨_, _, -, figures⟩ := Traverse.bind_eq_some.mp figures
  obtain ⟨_, _, -, figures⟩ := Traverse.bind_eq_some.mp figures
  obtain ⟨_, _, -, figures⟩ := Traverse.bind_eq_some.mp figures
  obtain ⟨_, _, -, figures⟩ := Traverse.bind_eq_some.mp figures
  obtain ⟨_, _, -, figures⟩ := Traverse.bind_eq_some.mp figures
  obtain ⟨_, _, -, figures⟩ := Traverse.bind_eq_some.mp figures
  obtain ⟨_, _, -, figures⟩ := Traverse.bind_eq_some.mp figures
  obtain ⟨_, _, -, figures⟩ := Traverse.bind_eq_some.mp figures
  obtain ⟨sameDate, samePlatform⟩ := analyticsDailyIn_cell (lift_eq_some figures)
  exact ⟨sameDate ▸ lift_eq_some isDay, samePlatform⟩

/-- The rows of a platform are of that platform, and no two of one day. -/
theorem platformRows_cells {days : Int} {today : Date} {profile : Profile} {s s' : σ}
    {rows : List AnalyticsDailyIn}
    (made : platformRows n days today profile s = some (rows, s')) :
    (∀ row ∈ rows, row.platform = profile.platform) ∧
      rows.Pairwise fun row later => row.date ≠ later.date := by
  obtain ⟨scale, _, -, rest⟩ := Traverse.bind_eq_some.mp made
  have each : List.Forall₂ (fun (i : Nat) (row : AnalyticsDailyIn) => (i : Int) < days ∧
      today.plusDays (-(days - 1 - i)) = some row.date ∧ row.platform = profile.platform)
      (List.range days.toNat) rows := by
    refine Traverse.forall₂_of_mapM (fun i inside s row s' isRow => ?_) rest
    have before : i < days.toNat := List.mem_range.mp inside
    exact ⟨by omega, dailyRow_cell isRow⟩
  constructor
  · intro row inside
    obtain ⟨_, _, -, -, isPlatform⟩ := Traverse.exists_of_forall₂ each.flip inside
    exact isPlatform
  · refine Traverse.pairwise_of_forall₂ ?_ each List.pairwise_lt_range
    rintro i j row later ⟨iBelow, iDay, -⟩ ⟨jBelow, jDay, -⟩ order same
    have back (k : Nat) (below : (k : Int) < days) :
        -(days - 1 - k) = -((days - 1 - k).toNat : Int) := by omega
    rw [back i iBelow] at iDay
    rw [back j jBelow] at jDay
    have iNumber := Date.toordinal_minusDays iDay
    have jNumber := Date.toordinal_minusDays jDay
    rw [same] at iNumber
    omega

/-- The rows of profiles with platforms of their own have cells of their own. -/
theorem parts_cells {list : List Profile} {days : Int} {today : Date} {s s' : σ}
    {parts : List (List AnalyticsDailyIn)}
    (apart : list.Pairwise fun profile later => profile.platform ≠ later.platform)
    (made : (list.mapM (platformRows n days today)) s = some (parts, s')) :
    (parts.flatten.map fun row => (row.date, row.platform)).Nodup := by
  have each : List.Forall₂ (fun (profile : Profile) (part : List AnalyticsDailyIn) =>
      (∀ row ∈ part, row.platform = profile.platform) ∧
        part.Pairwise fun row later => row.date ≠ later.date) list parts := by
    refine Traverse.forall₂_of_mapM (fun profile _ s part s' isPart => ?_) made
    exact platformRows_cells isPart
  rw [List.Nodup, List.pairwise_map, List.pairwise_flatten]
  constructor
  · intro part inside
    obtain ⟨_, _, -, days⟩ := Traverse.exists_of_forall₂ each.flip inside
    exact days.imp fun apart same => apart (congrArg Prod.fst same)
  · refine Traverse.pairwise_of_forall₂ ?_ each apart
    rintro profile profile' part part' ⟨platform, -⟩ ⟨platform', -⟩ apart row inside row' inside'
      same
    apply apart
    rw [← platform row inside, ← platform' row' inside']
    exact congrArg Prod.snd same

/-- No cell is generated twice. -/
theorem rowsForClient_cells {slug : String} {days : Int} {today : Date}
    {rows : List AnalyticsDailyIn} (made : rowsForClient n slug days today = some rows) :
    (rows.map fun row => (row.date, row.platform)).Nodup := by
  have listed : profiles.map Profile.platform = [.google, .facebook, .linkedin, .ga4, .seo] := rfl
  have platforms : (profiles.map Profile.platform).Nodup := by
    rw [listed]
    decide
  obtain ⟨parts, isParts, rfl⟩ := Option.map_eq_some_iff.mp made
  obtain ⟨s', ran⟩ := of_run' isParts
  exact parts_cells (List.pairwise_map.mp platforms) ran

/-! ## Around the facts -/

/-- Whether a fact of the client holds the cell of a generated row. -/
def holdsFact (clientId : Uuid) (table : List DatedRow) (row : AnalyticsDailyIn) : Bool :=
  table.any fun entry => entry.row.clientId = clientId ∧ entry.row.date = row.date ∧
    entry.row.platform = row.platform ∧ entry.row.source ≠ some synthetic

/-- A row without its identifier and its creation time. -/
def DatedRow.content (entry : DatedRow) : AnalyticsDaily := { entry.row with id := 0 }

/-- What the table holds of a generated row. -/
def generatedContent (clientId : Uuid) (row : AnalyticsDailyIn) : AnalyticsDaily :=
  stored (dailyValues clientId synthetic (0, row))

/-- The table after a seeding: every fact and every row of another client is as it was, no cell is
held twice, and the synthetic rows of the client are the generated ones whose cells no fact
holds. -/
structure Seeded (clientId : Uuid) (generated : List AnalyticsDailyIn)
    (before after : List DatedRow) : Prop where
  facts : (after.filter fun entry => entry.row.source ≠ some synthetic) =
    before.filter fun entry => entry.row.source ≠ some synthetic
  others : (after.filter fun entry => entry.row.clientId ≠ clientId) =
    before.filter fun entry => entry.row.clientId ≠ clientId
  cells : (after.map DatedRow.cell).Nodup
  own : (after.filter fun entry => entry.synthetic clientId).map DatedRow.content =
    (generated.filter fun row => !holdsFact clientId before row).map (generatedContent clientId)

section Seeding

variable {clientId : Uuid} {table : List DatedRow}

/-- The synthetic rows of a client are those of both columns. -/
theorem synthetic_iff {entry : DatedRow} : entry.synthetic clientId = true ↔
    entry.row.clientId = clientId ∧ entry.row.source = some synthetic := decide_eq_true_iff

/-- The protected cells are the cells of the client's facts. -/
theorem mem_protectedCells {row : AnalyticsDailyIn} :
    (row.date, row.platform) ∈ protectedCells clientId (table.map DatedRow.row) ↔
      holdsFact clientId table row = true := by
  simp only [protectedCells, holdsFact, List.mem_map, List.mem_filter, List.any_eq_true,
    decide_eq_true_eq, Prod.mk.injEq]
  constructor
  · rintro ⟨_, ⟨⟨entry, inside, rfl⟩, isClient, isFact⟩, isDate, isPlatform⟩
    exact ⟨entry, inside, isClient, isDate, isPlatform, isFact⟩
  · rintro ⟨entry, inside, isClient, isDate, isPlatform, isFact⟩
    exact ⟨entry.row, ⟨⟨entry, inside, rfl⟩, isClient, isFact⟩, isDate, isPlatform⟩

/-- The table without the synthetic rows of a client. -/
def cleared (clientId : Uuid) (table : List DatedRow) : List DatedRow :=
  table.filter fun entry => !entry.synthetic clientId

/-- The generated rows whose cells no fact holds. -/
def free (clientId : Uuid) (table : List DatedRow) (rows : List AnalyticsDailyIn) :
    List AnalyticsDailyIn :=
  rows.filter fun row => !holdsFact clientId table row

/-- The rows that are inserted. -/
def inserted (clientId : Uuid) (ids : Nat → Uuid) (now : Timestamp) (rows : List AnalyticsDailyIn) :
    List DatedRow :=
  rows.zipIdx.map fun entry => seededRow clientId now (ids entry.2) entry.1

/-- The rows that are kept are those whose cells no fact holds. -/
theorem kept_eq (rows : List AnalyticsDailyIn) :
    (if (protectedCells clientId (table.map DatedRow.row)).isEmpty then rows
      else rows.filter fun row =>
        !(protectedCells clientId (table.map DatedRow.row)).contains (row.date, row.platform)) =
      free clientId table rows := by
  have same : (rows.filter fun row =>
      !(protectedCells clientId (table.map DatedRow.row)).contains (row.date, row.platform)) =
      free clientId table rows := by
    apply List.filter_congr
    intro row _
    rw [Bool.eq_iff_iff.mpr (List.contains_iff_mem.trans mem_protectedCells)]
  split
  · next none =>
    rw [← same, eq_comm, List.filter_eq_self]
    intro row _
    rw [List.isEmpty_iff.mp none]
    rfl
  · exact same

/-- Inserted rows are synthetic rows of the client. -/
theorem inserted_synthetic {ids : Nat → Uuid} {now : Timestamp} {rows : List AnalyticsDailyIn}
    {entry : DatedRow} (inside : entry ∈ inserted clientId ids now rows) :
    entry.row.clientId = clientId ∧ entry.row.source = some synthetic := by
  obtain ⟨_, -, rfl⟩ := List.mem_map.mp inside
  exact ⟨rfl, rfl⟩

/-- A column that does not depend on the identifier is that of the generated rows. -/
theorem inserted_map {β : Type} {ids : Nat → Uuid} {now : Timestamp} (read : DatedRow → β)
    (expected : AnalyticsDailyIn → β)
    (each : ∀ id row, read (seededRow clientId now id row) = expected row)
    (rows : List AnalyticsDailyIn) :
    (inserted clientId ids now rows).map read = rows.map expected := by
  have values : (inserted clientId ids now rows).map read =
      (rows.zipIdx.map Prod.fst).map expected := by
    rw [inserted, List.map_map, List.map_map]
    exact List.map_congr_left fun entry _ => each _ _
  rw [values, List.zipIdx_map_fst]

/-- The rows that are left and the rows that are inserted have cells of their own. -/
theorem cells_apart {ids : Nat → Uuid} {now : Timestamp} {rows : List AnalyticsDailyIn}
    (unique : (table.map DatedRow.cell).Nodup)
    (distinct : (rows.map fun row => (row.date, row.platform)).Nodup) :
    ((cleared clientId table ++ inserted clientId ids now (free clientId table rows)).map
      DatedRow.cell).Nodup := by
  have values : (inserted clientId ids now (free clientId table rows)).map DatedRow.cell =
      ((free clientId table rows).map fun row => (row.date, row.platform)).map (clientId, ·) := by
    rw [inserted_map DatedRow.cell (fun row => (clientId, row.date, row.platform)) fun _ _ => rfl,
      List.map_map]
    rfl
  rw [List.map_append, List.nodup_append', values]
  refine ⟨unique.sublist (List.filter_sublist.map _), ?_, ?_⟩
  · exact (distinct.sublist (List.filter_sublist.map _)).map fun _ _ same => (Prod.mk.inj same).2
  · intro cell left right
    obtain ⟨entry, inside, isCell⟩ := List.mem_map.mp left
    obtain ⟨_, listed, rfl⟩ := List.mem_map.mp right
    obtain ⟨row, member, rfl⟩ := List.mem_map.mp listed
    obtain ⟨stays, notOwn⟩ := List.mem_filter.mp inside
    obtain ⟨-, noFact⟩ := List.mem_filter.mp member
    obtain ⟨isClient, isOther⟩ := Prod.mk.inj isCell
    obtain ⟨isDate, isPlatform⟩ := Prod.mk.inj isOther
    have isFact : entry.row.source ≠ some synthetic := fun source => by
      rw [synthetic_iff.mpr ⟨isClient, source⟩] at notOwn
      cases notOwn
    have holds : holdsFact clientId table row = true :=
      List.any_eq_true.mpr ⟨entry, stays,
        decide_eq_true ⟨isClient, isDate, isPlatform, isFact⟩⟩
    rw [holds] at noFact
    cases noFact

/-- What a seeding leaves, when the rows can be generated. -/
theorem seedAnalytics_eq {slug : String} {days : Int} {today : Date} {ids : Nat → Uuid}
    {now : Timestamp} {rows : List AnalyticsDailyIn} (unique : (table.map DatedRow.cell).Nodup)
    (made : rowsForClient n slug days today = some rows) :
    seedAnalytics n clientId slug days today ids now table =
      some (cleared clientId table ++ inserted clientId ids now (free clientId table rows),
        (free clientId table rows).length, rows.length - (free clientId table rows).length) := by
  have apart : ((cleared clientId table ++ inserted clientId ids now
      (free clientId table rows)).map DatedRow.cell).Nodup :=
    cells_apart unique (rowsForClient_cells made)
  unfold seedAnalytics
  rw [made, Option.bind_eq_bind, Option.bind_some]
  simp only [kept_eq]
  cases isFree : free clientId table rows with
  | nil =>
    simp only [List.isEmpty_nil, ↓reduceIte, Option.bind_eq_bind, Option.bind_some]
    rw [show inserted clientId ids now [] = [] from rfl, List.append_nil]
    rfl
  | cons row later =>
    rw [isFree] at apart
    simp only [List.isEmpty_cons, Bool.false_eq_true, ↓reduceIte, Option.bind_eq_bind]
    exact congrArg (Option.bind · _) (if_pos apart)

/-- No cell is cleared of a fact, and none of another client's. -/
theorem filter_seeded {ids : Nat → Uuid} {now : Timestamp} {rows : List AnalyticsDailyIn}
    {selected : DatedRow → Bool}
    (outside : ∀ entry : DatedRow, selected entry = true →
      ¬(entry.row.clientId = clientId ∧ entry.row.source = some synthetic)) :
    (cleared clientId table ++ inserted clientId ids now rows).filter selected =
      table.filter selected := by
  have none : (inserted clientId ids now rows).filter selected = [] :=
    List.filter_eq_nil_iff.mpr fun entry inside chosen =>
      outside entry chosen (inserted_synthetic inside)
  rw [List.filter_append, none, List.append_nil, cleared, List.filter_filter]
  apply List.filter_congr
  intro entry _
  cases chosen : selected entry with
  | false => rfl
  | true =>
    have notOwn : entry.synthetic clientId = false :=
      Bool.eq_false_iff.mpr fun own => outside entry chosen (synthetic_iff.mp own)
    rw [notOwn]
    rfl

/-- The client's facts are those of the table that is seeded, and so are the rows that are kept. -/
theorem free_seeded {ids : Nat → Uuid} {now : Timestamp} {rows generated : List AnalyticsDailyIn} :
    free clientId (cleared clientId table ++ inserted clientId ids now rows) generated =
      free clientId table generated := by
  have facts (row : AnalyticsDailyIn) (table : List DatedRow) : holdsFact clientId table row =
      (table.filter fun entry => entry.row.source ≠ some synthetic).any fun entry =>
        entry.row.clientId = clientId ∧ entry.row.date = row.date ∧
          entry.row.platform = row.platform := by
    rw [List.any_filter]
    unfold holdsFact
    congr 1
    funext entry
    rw [← Bool.decide_and, decide_eq_decide]
    tauto
  have same : ((cleared clientId table ++ inserted clientId ids now rows).filter fun entry =>
      entry.row.source ≠ some synthetic) =
      table.filter fun entry => entry.row.source ≠ some synthetic :=
    filter_seeded fun entry chosen own => (of_decide_eq_true chosen : _ ≠ _) own.2
  apply List.filter_congr
  intro row _
  rw [facts, facts, same]

/-- The synthetic rows of the client are the inserted ones. -/
theorem own_seeded {ids : Nat → Uuid} {now : Timestamp} {rows : List AnalyticsDailyIn} :
    ((cleared clientId table ++ inserted clientId ids now rows).filter fun entry =>
      entry.synthetic clientId) = inserted clientId ids now rows := by
  have none : ((cleared clientId table).filter fun entry => entry.synthetic clientId) = [] := by
    rw [cleared, List.filter_filter, List.filter_eq_nil_iff]
    intro entry _
    simp
  rw [List.filter_append, none, List.nil_append, List.filter_eq_self]
  exact fun entry inside => synthetic_iff.mpr (inserted_synthetic inside)

/-- Clearing a seeded table leaves what clearing the table leaves. -/
theorem cleared_seeded {ids : Nat → Uuid} {now : Timestamp} {rows : List AnalyticsDailyIn} :
    cleared clientId (cleared clientId table ++ inserted clientId ids now rows) =
      cleared clientId table := by
  rw [cleared, filter_seeded]
  · rfl
  · intro entry kept own
    rw [synthetic_iff.mpr own] at kept
    cases kept

end Seeding

/-- Demo seeding around facts. When the rows can not be generated, since a day lies before the
calendar, nothing is written. Otherwise the table is seeded; seeding it again leaves the same rows
up to identifiers and creation times, and purging it leaves what purging it before would have
left. -/
def SeedsAround (n : Numbers F σ) (clientId : Uuid) (slug : String) (days : Int) (today : Date)
    (ids : Nat → Uuid) (now : Timestamp) (table : List DatedRow) : Prop :=
  match rowsForClient n slug days today with
  | none => seedAnalytics n clientId slug days today ids now table = none
  | some generated => ∃ after written skipped,
      seedAnalytics n clientId slug days today ids now table = some (after, written, skipped) ∧
      Seeded clientId generated table after ∧
      (∀ ids' now', ∃ again,
        seedAnalytics n clientId slug days today ids' now' after = some (again, written, skipped) ∧
        again.map DatedRow.content = after.map DatedRow.content) ∧
      (∀ entry, entry ∈ (purgeClient clientId after).1 ↔ entry ∈ after ∧
        ¬(entry.row.clientId = clientId ∧ entry.row.source = some synthetic)) ∧
      (purgeClient clientId after).1 = (purgeClient clientId table).1

/-- Seeding goes around the facts of every table that keeps the unique constraint. -/
theorem seedAnalytics_seedsAround (n : Numbers F σ) (clientId : Uuid) (slug : String) (days : Int)
    (today : Date) (ids : Nat → Uuid) (now : Timestamp) (table : List DatedRow)
    (unique : (table.map DatedRow.cell).Nodup) :
    SeedsAround n clientId slug days today ids now table := by
  unfold SeedsAround
  cases made : rowsForClient n slug days today with
  | none =>
    unfold seedAnalytics
    rw [made]
    rfl
  | some generated =>
    have distinct := rowsForClient_cells made
    refine ⟨_, _, _, seedAnalytics_eq unique made, ?_, ?_, ?_, cleared_seeded⟩
    · constructor
      · exact filter_seeded fun entry chosen own => (of_decide_eq_true chosen : _ ≠ _) own.2
      · exact filter_seeded fun entry chosen own => (of_decide_eq_true chosen : _ ≠ _) own.1
      · exact cells_apart unique distinct
      · rw [own_seeded, inserted_map DatedRow.content (generatedContent clientId) fun _ _ => rfl]
        rfl
    · intro ids' now'
      have kept : ((cleared clientId table ++ inserted clientId ids now
          (free clientId table generated)).map DatedRow.cell).Nodup := cells_apart unique distinct
      have again : seedAnalytics n clientId slug days today ids' now' _ = _ :=
        seedAnalytics_eq kept made
      rw [cleared_seeded, free_seeded] at again
      refine ⟨_, again, ?_⟩
      rw [List.map_append, List.map_append,
        inserted_map DatedRow.content (generatedContent clientId) fun _ _ => rfl,
        inserted_map DatedRow.content (generatedContent clientId) fun _ _ => rfl]
    · intro entry
      rw [purgeClient, List.mem_filter, Bool.not_eq_true', ← synthetic_iff, Bool.not_eq_true]

/-! ## A seeding -/

/-- Exact numbers, and a generator that always draws one half. -/
def sampleNumbers : Numbers ℚ Unit where
  float x := x
  add := (· + ·)
  sub := (· - ·)
  mul := (· * ·)
  div := (· / ·)
  less x y := x < y
  int x := if 0 ≤ x then ⌊x⌋ else ⌈x⌉
  round := ClientRollup.hundredths
  seeded _ := ()
  random _ := (1 / 2, ())

/-- The day of the sample seedings. -/
def seedDay : Date := ⟨2026, 9, 3, by decide⟩

/-- A measured fact without a source, on the day of the seeding. -/
def measured : DatedRow where
  row := ⟨9, 1, seedDay, .google, ⟨100, 10, 1, 2, 30, 80⟩, none⟩
  createdAt := 0

/-- A table with that fact is seeded around it. -/
theorem seeds_around_measured :
    SeedsAround sampleNumbers 1 "acme" 1 seedDay (fun i => i) 5 [measured] :=
  seedAnalytics_seedsAround sampleNumbers 1 "acme" 1 seedDay (fun i => i) 5 [measured] (by decide)

/-- A row without its identifier. -/
def DatedRow.withoutId (entry : DatedRow) : DatedRow := { entry with row := entry.content }

/-- The sample seeding generates five rows. -/
theorem sample_rows : ∃ row rows,
    rowsForClient sampleNumbers "acme" 1 seedDay = some (row :: rows) := by
  have count : (rowsForClient sampleNumbers "acme" 1 seedDay).map List.length = some 5 := by
    decide +kernel
  obtain ⟨rows, made, length⟩ := Option.map_eq_some_iff.mp count
  cases rows with
  | nil => cases length
  | cons row rows => exact ⟨row, rows, made⟩

/-- A second seeding, a moment later and with the same identifiers, leaves other creation
times. -/
theorem second_seeding_redates : ∃ first second written skipped written' skipped',
    seedAnalytics sampleNumbers 1 "acme" 1 seedDay (fun i => i) 0 [] =
      some (first, written, skipped) ∧
    seedAnalytics sampleNumbers 1 "acme" 1 seedDay (fun i => i) 1 first =
      some (second, written', skipped') ∧
    second.map DatedRow.withoutId ≠ first.map DatedRow.withoutId := by
  obtain ⟨row, rows, made⟩ := sample_rows
  have empty : (([] : List DatedRow).map DatedRow.cell).Nodup := .nil
  have unique : ((cleared 1 [] ++ inserted 1 (fun i => i) 0 (free 1 [] (row :: rows))).map
      DatedRow.cell).Nodup := cells_apart empty (rowsForClient_cells made)
  refine ⟨_, _, _, _, _, _, seedAnalytics_eq empty made, seedAnalytics_eq unique made, ?_⟩
  rw [cleared_seeded, free_seeded]
  intro same
  have first : (1 : Timestamp) = 0 :=
    congrArg (fun entries => (entries.map DatedRow.createdAt).headD 0) same
  cases first

end MarketingOS.DemoData
