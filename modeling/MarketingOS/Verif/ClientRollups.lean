import Mathlib.Tactic.Linarith
import MarketingOS.Services.ClientRollup

/-! # Rollups of transactions whose aggregates and commits do not cross

A transaction recomputes the rollup from the rows it sees and commits it with its own rows. When no
other transaction commits in between, what it saw is what is committed, and the rollup agrees with
the facts in every state. -/
namespace MarketingOS.ClientRollup

variable {quotient : ℚ → Int → ℚ} {clientId : Uuid} {rows : List AnalyticsDaily}
  {edits : List Edit} {w w' : World} {t : Nat}

/-! ## Sums of hundredths -/

/-- A number of hundredths is what a column of two decimals holds. -/
theorem hundredths_div (n : ℤ) : hundredths (n / 100) = n / 100 := by
  have whole : (n / 100 : ℚ) * 100 = n := by ring
  rw [hundredths, whole, round_intCast]

/-- What a column of two decimals holds it holds again. -/
theorem hundredths_hundredths (x : ℚ) : hundredths (hundredths x) = hundredths x :=
  hundredths_div _

/-- A sum of hundredths is a number of hundredths. -/
theorem hundredths_sum {amounts : List ℚ} (exact : ∀ x ∈ amounts, hundredths x = x) :
    hundredths amounts.sum = amounts.sum := by
  have count : ∃ n : ℤ, amounts.sum = n / 100 := by
    induction amounts with
    | nil => exact ⟨0, by simp⟩
    | cons x rest ih =>
      obtain ⟨n, total⟩ := ih fun y inside => exact y (List.mem_cons_of_mem _ inside)
      refine ⟨round (x * 100) + n, ?_⟩
      have first : x = (round (x * 100) : ℚ) / 100 := (exact x List.mem_cons_self).symm
      rw [List.sum_cons, total]
      nth_rewrite 1 [first]
      push_cast
      ring
  obtain ⟨n, total⟩ := count
  rw [total, hundredths_div]

/-- Storing a row twice stores the same. -/
theorem stored_stored (row : AnalyticsDaily) : stored (stored row) = stored row := by
  simp only [stored, hundredths_hundredths]

/-- The spend of stored rows is a number of hundredths. -/
theorem hundredths_spendOf (exact : ∀ row ∈ rows, stored row = row) :
    hundredths (spendOf clientId rows) = spendOf clientId rows := by
  apply hundredths_sum
  intro x inside
  simp only [rowsOf, List.map_map, List.mem_map, Function.comp_apply] at inside
  obtain ⟨row, member, rfl⟩ := inside
  have same := exact row (List.mem_of_mem_filter member)
  exact congrArg (fun row => row.metrics.spend) same

/-- What is recomputed from stored rows agrees with them. -/
theorem refresh_agrees (exact : ∀ row ∈ rows, stored row = row) :
    Agrees quotient clientId rows (refreshClientRollups quotient clientId rows) :=
  ⟨hundredths_spendOf exact, rfl, rfl⟩

/-! ## Edits -/

/-- An edit whose row is stored. -/
def Edit.Exact : Edit → Prop
  | .upsert row => stored row = row
  | .delete _ => True

/-- An edit of a stored row leaves stored rows. -/
theorem Edit.apply_exact {edit : Edit} (exact : ∀ row ∈ rows, stored row = row)
    (fine : edit.Exact) : ∀ row ∈ edit.apply rows, stored row = row := by
  intro row inside
  cases edit with
  | upsert new =>
    simp only [Edit.apply, Upsert.one] at inside
    split at inside
    · rcases Table.mem_modify.mp inside with ⟨old, -⟩ | ⟨old, member, -, rfl⟩
      · exact exact row old
      · have metrics := congrArg AnalyticsDaily.metrics fine
        simp only [stored] at metrics ⊢
        simp only [AnalyticsDaily.upsert, metrics]
    · rcases List.mem_append.mp inside with old | self
      · exact exact row old
      · rw [List.mem_singleton.mp self]
        exact fine
  | delete cell => exact exact row (List.mem_of_mem_filter inside)

/-- Edits of stored rows leave stored rows. -/
theorem seen_exact (exact : ∀ row ∈ rows, stored row = row) (fine : ∀ edit ∈ edits, edit.Exact) :
    ∀ row ∈ seen rows edits, stored row = row := by
  induction edits generalizing rows with
  | nil => exact exact
  | cons edit rest ih =>
    have first := Edit.apply_exact exact (fine edit List.mem_cons_self)
    exact ih first fun other inside => fine other (List.mem_cons_of_mem _ inside)

/-- The edits of `bulk_upsert` are of stored rows. -/
theorem bulkUpsert_exact (source : String) (given : List (Uuid × Analytics.AnalyticsDailyIn)) :
    ∀ edit ∈ bulkUpsert clientId source given, edit.Exact := by
  intro edit inside
  obtain ⟨row, -, rfl⟩ := List.mem_map.mp inside
  exact stored_stored row

/-- The edits of an insert are of stored rows. -/
theorem insertSynthetic_exact {generated : List (Uuid × Analytics.AnalyticsDailyIn)}
    (inserted : insertSynthetic clientId rows generated = some edits) :
    ∀ edit ∈ edits, edit.Exact := by
  simp only [insertSynthetic, Option.ite_none_right_eq_some, Option.some.injEq] at inserted
  obtain ⟨-, rfl⟩ := inserted
  intro edit inside
  obtain ⟨row, -, rfl⟩ := List.mem_map.mp inside
  exact stored_stored row

/-- Deletions drop the rows of their cells. -/
theorem seen_deletes (cells : List Cell) (rows : List AnalyticsDaily) :
    seen rows (cells.map .delete) =
      rows.filter fun row => AnalyticsDaily.upsert.key row ∉ cells := by
  induction cells generalizing rows with
  | nil => simp [seen]
  | cons cell rest ih =>
    simp only [seen, List.map_cons, List.foldl_cons, Edit.apply] at ih ⊢
    rw [ih, Table.remove, List.filter_filter]
    apply List.filter_congr
    intro row _
    simp [Bool.and_comm]

/-- Dropping rows that add nothing keeps a sum. -/
theorem sum_filter {α : Type} [AddMonoid α] (column : AnalyticsDaily → α)
    (kept : AnalyticsDaily → Bool) (dropped : ∀ row ∈ rows, kept row = false → column row = 0) :
    ((rows.filter kept).map column).sum = (rows.map column).sum := by
  induction rows with
  | nil => rfl
  | cons row rest ih =>
    have others := ih fun other inside => dropped other (List.mem_cons_of_mem _ inside)
    cases keeps : kept row with
    | true => simp [keeps, others]
    | false => simp [keeps, others, dropped row List.mem_cons_self keeps]

/-- A rollup that agrees still does when rows without spend and leads are dropped. -/
theorem Agrees.drop {rollup : Rollup} (agrees : Agrees quotient clientId rows rollup)
    {kept : AnalyticsDaily → Bool} (dropped : ∀ row ∈ rows, kept row = false →
      row.metrics.spend = 0 ∧ row.metrics.leads = 0) :
    Agrees quotient clientId (rows.filter kept) rollup := by
  have own : rowsOf clientId (rows.filter kept) =
      ((rows.filter fun row => row.clientId = clientId).filter kept).map AnalyticsDaily.metrics := by
    rw [rowsOf, List.filter_comm]
  have spend : spendOf clientId (rows.filter kept) = spendOf clientId rows := by
    rw [spendOf, own, spendOf, rowsOf, List.map_map, List.map_map]
    apply sum_filter
    exact fun row inside drops => (dropped row (List.mem_of_mem_filter inside) drops).1
  have leads : leadsOf clientId (rows.filter kept) = leadsOf clientId rows := by
    rw [leadsOf, own, leadsOf, rowsOf, List.map_map, List.map_map]
    apply sum_filter
    exact fun row inside drops => (dropped row (List.mem_of_mem_filter inside) drops).2
  exact ⟨agrees.spend.trans spend.symm, agrees.leads.trans leads.symm, by
    rw [spend, leads, agrees.cpl]⟩

/-! ## Runs -/

/-- Whether a transaction has recomputed the rollup and not committed. -/
def Stage.refreshing : Stage → Bool
  | .refreshed _ _ _ => true
  | _ => false

/-- The client's row a session holds is the committed one when it recomputes the rollup; nobody
commits while another transaction is between its aggregate and its commit; and a purge deletes only
rows without spend and leads. -/
def Separate : Machine.Guard World Label
  | w, .refresh t => ∀ writer held edits,
    w.transactions[t]? = some (writer, .written (some held) edits) → held = w.rollup
  | w, .commit t =>
    (∀ (other : Nat) (entry : Writer × Stage), w.transactions[other]? = some entry → other ≠ t →
      entry.2.refreshing = false) ∧
    ∀ writer edits, w.transactions[t]? = some (writer, .purged edits) → ∀ row ∈ w.rows,
      AnalyticsDaily.upsert.key row ∈ edits.map Edit.cell →
        row.metrics.spend = 0 ∧ row.metrics.leads = 0
  | _, _ => True

/-- What is known of a transaction: its edits are of stored rows, a purge only deletes, and a
recomputed rollup is the one of the rows it will commit. -/
structure Known (quotient : ℚ → Int → ℚ) (clientId : Uuid) (rows : List AnalyticsDaily)
    (rollup : Rollup) (stage : Stage) : Prop where
  exact : ∀ edit ∈ stage.edits, edit.Exact
  deletes : ∀ edits, stage = .purged edits → ∃ cells : List Cell, edits = cells.map .delete
  fresh : ∀ held edits computed, stage = .refreshed held edits computed → held = rollup ∧
    computed = refreshClientRollups quotient clientId (seen rows edits)

/-- The rows are stored, the rollup agrees with them, and every transaction is known. -/
structure Sound (quotient : ℚ → Int → ℚ) (clientId : Uuid) (w : World) : Prop where
  exact : ∀ row ∈ w.rows, stored row = row
  agrees : Agrees quotient clientId w.rows w.rollup
  known : ∀ entry ∈ w.transactions, Known quotient clientId w.rows w.rollup entry.2

/-- A transaction that moves keeps the world sound when its new stage is known. -/
theorem Sound.move (sound : Sound quotient clientId w) (t : Nat) (writer : Writer) {stage : Stage}
    (known : Known quotient clientId w.rows w.rollup stage) :
    Sound quotient clientId (w.move t writer stage) := by
  refine ⟨sound.exact, sound.agrees, ?_⟩
  intro entry inside
  rcases List.mem_or_eq_of_mem_set inside with stays | rfl
  · exact sound.known entry stays
  · exact known

/-- A stage that is neither a purge nor recomputed is known by its edits. -/
theorem Known.of_edits {rollup : Rollup} {stage : Stage} (fine : ∀ edit ∈ stage.edits, edit.Exact)
    (early : stage.refreshing = false) (other : ∀ edits, stage ≠ .purged edits) :
    Known quotient clientId rows rollup stage := by
  refine ⟨fine, fun edits same => absurd same (other edits), ?_⟩
  rintro held edits computed rfl
  cases early

/-- A statement keeps the world sound. -/
theorem statement_sound {writer : Writer} {stage : Stage} (sound : Sound quotient clientId w)
    (place : w.transactions[t]? = some (writer, stage))
    (taken : statement clientId w t writer stage = some w') : Sound quotient clientId w' := by
  have deletes : ∀ edit ∈ deleteSynthetic clientId w.rows, edit.Exact := by
    intro edit inside
    obtain ⟨row, -, rfl⟩ := List.mem_map.mp inside
    trivial
  have before := (sound.known _ (List.mem_of_getElem? place)).exact
  cases stage with
  | opened held =>
    cases writer with
    | ingest source given =>
      simp only [statement, Option.ite_none_right_eq_some, Option.some.injEq] at taken
      obtain ⟨-, rfl⟩ := taken
      exact sound.move t _ (.of_edits (bulkUpsert_exact source given) rfl nofun)
    | seedClient generated =>
      obtain rfl := Option.some.inj taken
      exact sound.move t _ (.of_edits (by simp [Stage.edits]) rfl nofun)
    | purgeClient =>
      simp only [statement, Option.ite_none_right_eq_some, Option.some.injEq] at taken
      obtain ⟨-, rfl⟩ := taken
      refine sound.move t _ ⟨deletes, ?_, nofun⟩
      intro edits same
      obtain rfl := Stage.purged.inj same
      exact ⟨_, (List.map_map ..).symm⟩
  | planned held kept =>
    simp only [statement, Option.ite_none_right_eq_some, Option.some.injEq] at taken
    obtain ⟨-, rfl⟩ := taken
    exact sound.move t _ (.of_edits deletes rfl nofun)
  | cleared held kept edits =>
    simp only [statement] at taken
    split at taken
    · obtain rfl := Option.some.inj taken
      exact sound.move t _ (.of_edits (by simp [Stage.edits]) rfl nofun)
    · rename_i inserts inserted
      simp only [Option.ite_none_right_eq_some, Option.some.injEq] at taken
      obtain ⟨-, rfl⟩ := taken
      refine sound.move t _ (.of_edits ?_ rfl nofun)
      intro edit inside
      rcases List.mem_append.mp inside with early | late
      · exact before edit early
      · exact insertSynthetic_exact inserted edit late
  | _ => cases taken

/-- The rollup after the commit of a session that holds the committed one. -/
theorem update_held (held computed : Rollup) : update held computed held = computed := by
  have column {α : Type} [DecidableEq α] (held computed : α) :
      changed held computed held = computed := by
    by_cases same : computed = held <;> simp [changed, same]
  simp only [update, column]

/-- A commit keeps the world sound when what it commits agrees and no other transaction has
recomputed the rollup. -/
theorem Sound.commit {writer : Writer} {stage : Stage} {committed : List AnalyticsDaily}
    {rollup : Rollup} (sound : Sound quotient clientId w) (meets : Separate w (.commit t))
    (place : w.transactions[t]? = some (writer, stage))
    (exact : ∀ row ∈ committed, stored row = row)
    (agrees : Agrees quotient clientId committed rollup) :
    Sound quotient clientId { w.move t writer .ended with
      rows := committed
      rollup := rollup } := by
  refine ⟨exact, agrees, ?_⟩
  intro entry inside
  obtain ⟨other, stands⟩ := List.mem_iff_getElem?.mp inside
  by_cases same : other = t
  · subst same
    have inBounds : other < w.transactions.length := (List.getElem?_eq_some_iff.mp place).1
    rw [World.move, List.getElem?_set_self inBounds] at stands
    obtain rfl := Option.some.inj stands
    exact .of_edits (by simp [Stage.edits]) rfl nofun
  · rw [World.move, List.getElem?_set_ne (Ne.symm same)] at stands
    have was := sound.known entry (List.mem_of_getElem? stands)
    have early := meets.1 other entry stands same
    refine ⟨was.exact, was.deletes, ?_⟩
    intro held edits computed refreshed
    rw [refreshed] at early
    cases early

/-- The step lemma: a step of transactions that do not cross keeps the world sound. -/
theorem next_sound (w : World) (label : Label) (w' : World) (sound : Sound quotient clientId w)
    (meets : Separate w label) (taken : (machine quotient clientId).next w label = some w') :
    Sound quotient clientId w' := by
  cases label with
  | begin t reads =>
    simp only [machine, next] at taken
    split at taken
    · obtain rfl := Option.some.inj taken
      exact sound.move t _ (.of_edits (by simp [Stage.edits]) rfl nofun)
    · cases taken
  | statement t =>
    simp only [machine, next] at taken
    split at taken
    · rename_i place
      exact statement_sound sound place taken
    · cases taken
  | refresh t =>
    simp only [machine, next] at taken
    split at taken
    · rename_i writer held edits place
      obtain rfl := Option.some.inj taken
      have before := (sound.known _ (List.mem_of_getElem? place)).exact
      refine sound.move t _ ⟨before, nofun, ?_⟩
      intro held' edits' computed refreshed
      cases refreshed
      refine ⟨?_, rfl⟩
      cases held with
      | none => rfl
      | some held => exact meets writer held edits place
    · cases taken
  | commit t =>
    simp only [machine, next] at taken
    split at taken
    · rename_i writer held edits computed place
      obtain rfl := Option.some.inj taken
      have known := sound.known _ (List.mem_of_getElem? place)
      obtain ⟨rfl, rfl⟩ := known.fresh held edits computed rfl
      have exact := seen_exact sound.exact known.exact
      apply sound.commit meets place exact
      rw [update_held]
      exact refresh_agrees exact
    · rename_i writer edits place
      obtain rfl := Option.some.inj taken
      have known := sound.known _ (List.mem_of_getElem? place)
      obtain ⟨cells, rfl⟩ := known.deletes edits rfl
      have empty := meets.2 writer _ place
      have exact : ∀ row ∈ seen w.rows (cells.map .delete), stored row = row :=
        seen_exact sound.exact known.exact
      apply sound.commit meets place exact
      rw [seen_deletes]
      apply sound.agrees.drop
      intro row inside drops
      apply empty row inside
      simpa [Edit.cell] using drops
    · cases taken
  | rollback t =>
    simp only [machine, next] at taken
    split at taken
    · cases taken
    · cases taken
    · cases taken
    · obtain rfl := Option.some.inj taken
      exact sound.move t _ (.of_edits (by simp [Stage.edits]) rfl nofun)

/-- In every state that transactions which do not cross lead to, the rollup is the sum of spend and
leads of the client's rows, and their quotient. -/
theorem rollup_agrees {w : World}
    (reached : (machine quotient clientId).Reachable Separate w) :
    Agrees quotient clientId w.rows w.rollup := by
  have sound : Sound quotient clientId w := by
    apply reached.invariant
    · rintro w ⟨exact, agrees, idle⟩
      refine ⟨exact, agrees, ?_⟩
      intro entry inside
      rw [idle entry inside]
      exact .of_edits (by simp [Stage.edits]) rfl nofun
    · exact next_sound
  exact sound.agrees

/-- A quotient of whole numbers of hundredths. -/
def exactQuotient (spend : ℚ) (leads : Int) : ℚ := hundredths (spend / leads)

/-- A day's facts of one platform. -/
def sampleFacts (id : Uuid) (day : Nat) (exists_day : 1 ≤ day ∧ day ≤ 28) (leads : Int)
    (spend : ℚ) : Uuid × Analytics.AnalyticsDailyIn :=
  (id, ⟨⟨2026, 3, day, by simp [daysInMonth]; omega⟩, .instagram, ⟨0, 0, 0, leads, spend, 0⟩⟩)

/-- A client without facts, a connector sync and a CSV import of two days. -/
def twoIngests : World :=
  ⟨[], ⟨0, 0, 0⟩,
    [(.ingest "connector" [sampleFacts 10 1 (by decide) 2 10], .idle),
      (.ingest "csv" [sampleFacts 11 2 (by decide) 3 20], .idle)]⟩

/-- A client with synthetic facts, and a purge. -/
def seededPurge : World :=
  ⟨[], ⟨0, 0, 0⟩, [(.seedClient [sampleFacts 10 1 (by decide) 2 10], .idle), (.purgeClient, .idle)]⟩

/-- Both transactions aggregate before either commits. -/
def crossingIngests : List Label :=
  [.begin 0 false, .begin 1 false, .statement 0, .statement 1, .refresh 0, .refresh 1, .commit 0,
    .commit 1]

/-- The client is seeded, and purged afterwards. -/
def purgeAfterSeed : List Label :=
  [.begin 0 false, .statement 0, .statement 0, .statement 0, .refresh 0, .commit 0,
    .begin 1 false, .statement 1, .commit 1]

/-- The client with the facts of both days, after the connector sync and then the CSV import. -/
theorem rollup_agrees_twoIngests :
    ∃ w, (machine exactQuotient 2).Run Separate twoIngests
        [.begin 0 true, .statement 0, .refresh 0, .commit 0, .begin 1 true, .statement 1, .refresh 1,
          .commit 1] w ∧ Agrees exactQuotient 2 w.rows w.rollup := by
  have run : ∃ w, (machine exactQuotient 2).Run Separate twoIngests
      [.begin 0 true, .statement 0, .refresh 0, .commit 0, .begin 1 true, .statement 1, .refresh 1,
        .commit 1] w := by
    refine ⟨_, .cons trivial rfl (.cons trivial rfl (.cons ?_ rfl (.cons ?_ rfl (.cons trivial rfl
      (.cons trivial rfl (.cons ?_ rfl (.cons ?_ rfl (.nil _))))))))⟩
    · intro writer held edits place
      cases place
      rfl
    · refine ⟨?_, fun writer edits place => nomatch place⟩
      intro other entry stands apart
      match other, stands with
      | 0, _ => exact absurd rfl apart
      | 1, stands =>
        obtain rfl := Option.some.inj stands
        rfl
    · intro writer held edits place
      cases place
      rfl
    · refine ⟨?_, fun writer edits place => nomatch place⟩
      intro other entry stands apart
      match other, stands with
      | 0, stands =>
        obtain rfl := Option.some.inj stands
        rfl
      | 1, _ => exact absurd rfl apart
  obtain ⟨w, run⟩ := run
  refine ⟨w, run, rollup_agrees ⟨twoIngests, _, ⟨?_, ?_, ?_⟩, run⟩⟩
  · simp [twoIngests]
  · exact ⟨rfl, rfl, rfl⟩
  · simp [twoIngests]

/-- Whether every transaction has ended. -/
def World.finished (w : World) : Bool :=
  w.transactions.all fun entry =>
    match entry.2 with
    | .ended => true
    | _ => false

/-- The transactions of a world can all finish with a rollup that is not the sum of the facts. -/
def Drifts (w : World) (labels : List Label) : Prop :=
  (machine exactQuotient 2).start w ∧
    ∃ w', (machine exactQuotient 2).Run Machine.anyStep w labels w' ∧ w'.finished = true ∧
      ¬Agrees exactQuotient 2 w'.rows w'.rollup

/-- A run that plays to finished transactions and leads that are not those of the facts drifts. -/
theorem Drifts.of_play {w : World} {labels : List Label} (start : (machine exactQuotient 2).start w)
    (played : ((machine exactQuotient 2).play Machine.anyStep w labels).any (fun w' =>
      w'.finished && w'.rollup.leadsTotal ≠ leadsOf 2 w'.rows) = true) :
    Drifts w labels := by
  obtain ⟨w', reached, drifted⟩ := (Option.any_eq_true _ _).mp played
  have both : w'.finished = true ∧ w'.rollup.leadsTotal ≠ leadsOf 2 w'.rows := by
    simpa using drifted
  exact ⟨start, w', Machine.run_of_play reached, both.1, fun agrees => both.2 agrees.leads⟩

/-- Transactions that cross drift, and so does a purge. -/
theorem rollup_drifts :
    Drifts twoIngests crossingIngests ∧ Drifts seededPurge purgeAfterSeed := by
  constructor
  · apply Drifts.of_play
    · exact ⟨by simp [twoIngests], ⟨rfl, rfl, rfl⟩, by simp [twoIngests]⟩
    · decide +kernel
  · apply Drifts.of_play
    · exact ⟨by simp [seededPurge], ⟨rfl, rfl, rfl⟩, by simp [seededPurge]⟩
    · decide +kernel

end MarketingOS.ClientRollup
