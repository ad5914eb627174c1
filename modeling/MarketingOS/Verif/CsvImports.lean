import MarketingOS.Services.AnalyticsImport

/-!
# Exact imports

An import goes through the records until it has as many valid ones as it takes, so what it collects
is the first of the valid records. Of the values of one cell the last is sent, the columns keep it
or the database refuses the statement, and then the whole file is lost. The imports that do what
their report says are those that read the file to its end, with figures their columns hold as they
are.
-/
namespace MarketingOS.AnalyticsImport

variable {readers : Readers} {quotient : Amount → Int → Amount} {clientId : Uuid}
  {ids : Nat → Uuid}

/-! ## What an import is to do -/

/-- The rows of the valid records. -/
def valid (readers : Readers) (records : List Csv.Record) : List DailyIn :=
  records.filterMap fun record => (row readers record).toOption

/-- How many records are malformed. -/
def malformed (readers : Readers) (records : List Csv.Record) : Nat :=
  (records.filter fun record => (row readers record).toOption.isNone).length

/-- The records up to a number of valid ones. -/
def met (readers : Readers) : Nat → List Csv.Record → List Csv.Record
  | _, [] => []
  | 0, _ :: _ => []
  | n + 1, record :: records =>
    record :: met readers (if (row readers record).toOption.isSome then n else n + 1) records

/-- The records after the header of a file. -/
def recordsOf (raw : ByteArray) : List Csv.Record :=
  match openFile raw with
  | .ok file => file.records
  | .error _ => []

/-- The cell of a row. -/
def DailyIn.cell (row : DailyIn) : Date × SocialPlatform := (row.date, row.platform)

/-- The last row of a cell. -/
def lastOf (rows : List DailyIn) (cell : Date × SocialPlatform) : Option DailyIn :=
  (rows.filter fun row => row.cell = cell).getLast?

/-- The fact of a cell of the client. -/
def Store.fact (store : Store) (clientId : Uuid) (cell : Date × SocialPlatform) :
    Option FactRow :=
  Table.get FactRow.upsert.key store.facts (clientId, cell)

/-- The rows are stored and reported: every cell of theirs has the figures of its last row, any
other cell what it had. -/
structure Imported (clientId : Uuid) (rows : List DailyIn) (malformed : Nat)
    (before after : Store) (response : Response) : Prop where
  stored : ∀ cell row, lastOf rows cell = some row → ∃ fact,
    after.fact clientId cell = some fact ∧ fact.figures = row.figures ∧ fact.source = some "csv"
  others : ∀ client cell, (client = clientId → lastOf rows cell = none) →
    after.fact client cell = before.fact client cell
  upserted : response.upserted = (rows.map DailyIn.cell).dedup.length
  skipped : response.skipped = malformed

/-- An import is total and exact. -/
def ImportsExactly (readers : Readers) (quotient : Amount → Int → Amount) (clientId : Uuid)
    (ids : Nat → Uuid) (raw : ByteArray) (store : Store) : Prop :=
  (∃ error, importCsv readers quotient clientId ids raw store = (store, .error (.app error))) ∨
  ∃ after response, importCsv readers quotient clientId ids raw store = (after, .ok response) ∧
    Imported clientId ((valid readers (recordsOf raw)).take csvMaxRows)
      (malformed readers (met readers csvMaxRows (recordsOf raw))) store after response

/-- The columns hold figures as they are. -/
def Figures.Storable (figures : Figures) : Prop := figures.column = figures ∧ figures.Fits

/-- An import refuses the file or goes smoothly: reading never fails, no record comes after the
last one it takes, the columns hold the figures of the last row of every cell as they are, and
those of the rollup hold the totals with these figures in place. -/
def Smooth (readers : Readers) (quotient : Amount → Int → Amount) (clientId : Uuid)
    (ids : Nat → Uuid) (raw : ByteArray) (store : Store) : Prop :=
  match openFile raw with
  | .error (.app _) => True
  | .error _ => False
  | .ok file =>
    let rows := valid readers file.records
    file.failure = none ∧ met readers csvMaxRows file.records = file.records ∧
      (∀ cell row, lastOf rows cell = some row → row.figures.Storable) ∧
      (rows ≠ [] → (refresh quotient clientId
        (FactRow.upsert.rowByRow store.facts (allValues clientId ids rows))).Fits)

/-! ## Records -/

section Records

variable {record : Csv.Record} {records : List Csv.Record}

/-- A valid record has a row. -/
theorem valid_of_ok {found : DailyIn} (isRow : row readers record = .ok found) :
    valid readers (record :: records) = found :: valid readers records := by
  simp [valid, isRow, Except.toOption]

/-- A malformed record has none. -/
theorem valid_of_error {refusal : Refusal} (isRow : row readers record = .error refusal) :
    valid readers (record :: records) = valid readers records := by
  simp [valid, isRow, Except.toOption]

/-- A valid record counts towards the number that is taken. -/
theorem met_of_ok {found : DailyIn} (isRow : row readers record = .ok found) (n : Nat) :
    met readers (n + 1) (record :: records) = record :: met readers n records := by
  simp [met, isRow, Except.toOption]

/-- A malformed record does not. -/
theorem met_of_error {refusal : Refusal} (isRow : row readers record = .error refusal) (n : Nat) :
    met readers (n + 1) (record :: records) = record :: met readers (n + 1) records := by
  simp [met, isRow, Except.toOption]

/-- A valid record is not malformed. -/
theorem malformed_of_ok {found : DailyIn} (isRow : row readers record = .ok found) :
    malformed readers (record :: records) = malformed readers records := by
  simp [malformed, isRow, Except.toOption]

/-- A malformed record is. -/
theorem malformed_of_error {refusal : Refusal} (isRow : row readers record = .error refusal) :
    malformed readers (record :: records) = malformed readers records + 1 := by
  simp [malformed, isRow, Except.toOption]

/-- The records that are met have the first valid rows. -/
theorem valid_met (n : Nat) (records : List Csv.Record) :
    valid readers (met readers n records) = (valid readers records).take n := by
  induction records generalizing n with
  | nil => exact List.take_nil.symm
  | cons record records ih =>
    cases n with
    | zero => rfl
    | succ n =>
      cases isRow : row readers record with
      | ok found =>
        rw [met_of_ok isRow, valid_of_ok isRow, valid_of_ok isRow, ih n, List.take_succ_cons]
      | error refusal =>
        rw [met_of_error isRow, valid_of_error isRow, valid_of_error isRow, ih (n + 1)]

/-- The loop collects the rows of the records it meets and a message about each malformed one. At
the end of the file it fails where reading does; when it leaves records it adds a message. -/
theorem collect_eq {failure : Option Csv.Error} {i n : Nat} {rows : List DailyIn}
    {errors : List String} (room : rows.length + n = csvMaxRows) :
    ∃ messages : List String,
      messages.length = errors.length + malformed readers (met readers n records) ∧
      (met readers n records = records → collect readers failure i rows errors records =
        match failure with
        | some failure => .error (.csv failure)
        | none => .ok (rows ++ valid readers records, messages)) ∧
      (met readers n records ≠ records → collect readers failure i rows errors records =
        .ok (rows ++ valid readers (met readers n records),
          messages ++ ["Stopped at 5000 rows; the rest were ignored."])) := by
  induction records generalizing i n rows errors with
  | nil =>
    refine ⟨errors, rfl, fun _ => ?_, fun rest => absurd rfl rest⟩
    cases failure with
    | none => simp [collect, valid]
    | some failure => rfl
  | cons record records ih =>
    cases n with
    | zero =>
      refine ⟨errors, rfl, fun whole => (List.cons_ne_nil _ _ whole.symm).elim, fun _ => ?_⟩
      have full : csvMaxRows ≤ rows.length := Nat.le_of_eq room.symm
      rw [collect, if_pos full, met, valid, List.filterMap_nil, List.append_nil]
    | succ n =>
      have more : ¬csvMaxRows ≤ rows.length := by omega
      rw [collect, if_neg more]
      cases isRow : row readers record with
      | ok found =>
        have taken : (rows ++ [found]).length + n = csvMaxRows := by
          rw [List.length_append, List.length_singleton]
          omega
        obtain ⟨messages, length, whole, stopped⟩ := @ih (i + 1) n (rows ++ [found]) errors taken
        have front : rows ++ found :: valid readers records =
            rows ++ [found] ++ valid readers records := List.append_cons _ _ _
        rw [met_of_ok isRow, malformed_of_ok isRow]
        refine ⟨messages, length, fun all => ?_, fun rest => ?_⟩
        · rw [valid_of_ok isRow, front]
          exact whole (List.cons.inj all).2
        · rw [valid_of_ok isRow, List.append_cons]
          exact stopped fun same => rest (congrArg _ same)
      | error refusal =>
        obtain ⟨messages, length, whole, stopped⟩ :=
          @ih (i + 1) (n + 1) rows (errors ++ [rowError i refusal]) room
        rw [met_of_error isRow, malformed_of_error isRow]
        refine ⟨messages, ?_, fun all => ?_, fun rest => ?_⟩
        · rw [length, List.length_append, List.length_singleton]
          omega
        · rw [valid_of_error isRow]
          exact whole (List.cons.inj all).2
        · rw [valid_of_error isRow]
          exact stopped fun same => rest (congrArg _ same)

end Records

/-! ## The statement -/

section Statement

variable {rows : List DailyIn}

/-- A value is of the cell of its row. -/
theorem key_factValues (id : Uuid) (row : DailyIn) :
    FactRow.upsert.key (factValues clientId id row) = (clientId, row.cell) := rfl

/-- With identifiers left aside the values are those of the rows. -/
theorem map_allValues {β : Type} (read : FactRow → β) (expected : DailyIn → β)
    (each : ∀ id row, read (factValues clientId id row) = expected row) :
    (allValues clientId ids rows).map read = rows.map expected := by
  have values : (allValues clientId ids rows).map read =
      (rows.zipIdx.map Prod.fst).map expected := by
    rw [allValues, List.map_map, List.map_map]
    exact List.map_congr_left fun entry _ => each _ _
  rw [values, List.zipIdx_map_fst]

/-- The last value under the key of a cell is that of the last row of the cell. -/
theorem last_allValues {β : Type} (read : FactRow → β) (expected : DailyIn → β)
    (each : ∀ id row, read (factValues clientId id row) = expected row)
    (cell : Date × SocialPlatform) :
    (((allValues clientId ids rows).filter fun value =>
      FactRow.upsert.key value = (clientId, cell)).getLast?).map read =
      (lastOf rows cell).map expected := by
  have keyed : (allValues clientId ids rows).filter (fun value =>
      FactRow.upsert.key value = (clientId, cell)) =
      (rows.zipIdx.filter fun entry => entry.1.cell = cell).map fun entry =>
        factValues clientId (ids entry.2) entry.1 := by
    rw [allValues, List.filter_map]
    congr 1
    apply List.filter_congr
    intro entry _
    rw [Function.comp_apply, key_factValues, decide_eq_decide, Prod.mk.injEq]
    exact and_iff_right rfl
  have rowsOnly : (rows.zipIdx.filter fun entry => entry.1.cell = cell).map Prod.fst =
      rows.filter fun row => row.cell = cell := by
    conv_rhs => rw [← List.zipIdx_map_fst 0 rows, List.filter_map]
    rfl
  rw [lastOf, ← rowsOnly, keyed, ← List.getLast?_map, ← List.getLast?_map, List.map_map,
    List.map_map]
  congr 1
  exact List.map_congr_left fun entry _ => each _ _

/-- No row of a cell is last exactly when there is none. -/
theorem lastOf_eq_none {cell : Date × SocialPlatform} :
    lastOf rows cell = none ↔ ∀ row ∈ rows, row.cell ≠ cell := by
  rw [lastOf, List.getLast?_eq_none_iff, List.filter_eq_nil_iff]
  simp only [decide_eq_true_eq]

/-- A value is of the client. -/
theorem clientId_of_mem {value : FactRow} (inside : value ∈ allValues clientId ids rows) :
    value.clientId = clientId := by
  obtain ⟨_, -, rfl⟩ := List.mem_map.mp inside
  rfl

/-- Two values have one key where they have one date and one platform. -/
theorem key_eq_iff {left right : FactRow} (isLeft : left ∈ allValues clientId ids rows)
    (isRight : right ∈ allValues clientId ids rows) :
    (left.date, Enumeration.value left.platform) = (right.date, Enumeration.value right.platform) ↔
      FactRow.upsert.key left = FactRow.upsert.key right := by
  rw [Prod.mk.injEq, Enumeration.value_injective.eq_iff]
  constructor
  · rintro ⟨date, platform⟩
    exact Prod.ext ((clientId_of_mem isLeft).trans (clientId_of_mem isRight).symm)
      (Prod.ext date platform)
  · intro same
    obtain ⟨-, rest⟩ := Prod.mk.inj same
    exact Prod.mk.inj rest

/-- The value that is sent for a cell is the last of the cell. -/
theorem get_dedup (cell : Date × SocialPlatform) :
    (dedup (allValues clientId ids rows)).get (cell.1, Enumeration.value cell.2) =
      ((allValues clientId ids rows).filter fun value =>
        FactRow.upsert.key value = (clientId, cell)).getLast? := by
  rw [dedup, Dict.get_ofList, List.filter_map, List.getLast?_map, Option.map_map]
  have same : (allValues clientId ids rows).filter ((fun pair => decide (pair.1 =
      (cell.1, Enumeration.value cell.2))) ∘ fun value =>
        ((value.date, Enumeration.value value.platform), value)) =
      (allValues clientId ids rows).filter fun value =>
        FactRow.upsert.key value = (clientId, cell) := by
    apply List.filter_congr
    intro value inside
    rw [Function.comp_apply, decide_eq_decide, Prod.mk.injEq,
      Enumeration.value_injective.eq_iff]
    constructor
    · rintro ⟨date, platform⟩
      exact Prod.ext (clientId_of_mem inside) (Prod.ext date platform)
    · intro isCell
      obtain ⟨-, rest⟩ := Prod.mk.inj isCell
      exact ⟨congrArg Prod.fst rest, congrArg Prod.snd rest⟩
  rw [same]
  exact congrFun Option.map_id _

/-- The values that are sent are the last of their cells. -/
theorem mem_values {value : FactRow} :
    value ∈ (dedup (allValues clientId ids rows)).values ↔ ∃ cell,
      ((allValues clientId ids rows).filter fun value =>
        FactRow.upsert.key value = (clientId, cell)).getLast? = some value := by
  constructor
  · intro inside
    obtain ⟨⟨key, _⟩, entry, rfl⟩ := List.mem_map.mp inside
    obtain ⟨value, -, isPair⟩ := List.mem_map.mp (Dict.entries_ofList_subset entry)
    obtain ⟨rfl, rfl⟩ := Prod.mk.inj isPair
    exact ⟨(value.date, value.platform), by rw [← get_dedup]; exact Dict.mem_entries.mp entry⟩
  · rintro ⟨cell, isLast⟩
    rw [← get_dedup] at isLast
    exact List.mem_map_of_mem (Dict.mem_entries.mpr isLast)

/-- The columns hold the figures of the values exactly when they hold those of the last rows. -/
theorem fits_values_iff :
    (∀ value ∈ (dedup (allValues clientId ids rows)).values, value.figures.Fits) ↔
      ∀ cell row, lastOf rows cell = some row → row.figures.column.Fits := by
  constructor
  · intro fits cell row isLast
    have last := @last_allValues clientId ids rows Figures FactRow.figures
      (fun row => row.figures.column) (fun _ _ => rfl) cell
    rw [isLast] at last
    obtain ⟨value, isValue, figures⟩ := Option.map_eq_some_iff.mp last
    rw [show row.figures.column = value.figures from figures.symm]
    exact fits value (mem_values.mpr ⟨cell, isValue⟩)
  · intro fits value inside
    obtain ⟨cell, isValue⟩ := mem_values.mp inside
    have last := @last_allValues clientId ids rows Figures FactRow.figures
      (fun row => row.figures.column) (fun _ _ => rfl) cell
    rw [isValue] at last
    obtain ⟨row, isRow, figures⟩ := Option.map_eq_some_iff.mp last.symm
    rw [show value.figures = row.figures.column from figures.symm]
    exact fits cell row isRow

/-- A rollup does not depend on identifiers. -/
theorem refresh_map_withId (id : Uuid) (facts : List FactRow) :
    refresh quotient clientId (facts.map (FactRow.upsert.withId id)) =
      refresh quotient clientId facts := by
  have own : (facts.map (FactRow.upsert.withId id)).filter (fun fact => fact.clientId = clientId) =
      (facts.filter fun fact => fact.clientId = clientId).map (FactRow.upsert.withId id) := by
    rw [List.filter_map]
    rfl
  simp only [refresh, own, List.foldr_map]
  rfl

/-- The statement is accepted, and it leaves what the values leave one after another. -/
theorem statement_leaves (facts : List FactRow) :
    FactRow.upsert.statement facts (dedup (allValues clientId ids rows)).values =
      some (FactRow.upsert.rowByRow facts (dedup (allValues clientId ids rows)).values) ∧
    FactRow.upsert.Matches facts (allValues clientId ids rows)
      (FactRow.upsert.rowByRow facts (dedup (allValues clientId ids rows)).values) := by
  have agrees : ∀ p ∈ (allValues clientId ids rows).map (fun value =>
      ((value.date, Enumeration.value value.platform), value)),
      ∀ q ∈ (allValues clientId ids rows).map (fun value =>
        ((value.date, Enumeration.value value.platform), value)),
      p.1 = q.1 ↔ FactRow.upsert.key p.2 = FactRow.upsert.key q.2 := by
    intro p isP q isQ
    obtain ⟨left, isLeft, rfl⟩ := List.mem_map.mp isP
    obtain ⟨right, isRight, rfl⟩ := List.mem_map.mp isQ
    exact key_eq_iff isLeft isRight
  obtain ⟨result, accepted, leaves⟩ := FactRow.upsert.statement_values agrees facts
  have isResult : FactRow.upsert.rowByRow facts
      (dedup (allValues clientId ids rows)).values = result :=
    Option.some.inj (Option.ite_none_right_eq_some.mp accepted).2
  have pairs : ((allValues clientId ids rows).map fun value =>
      ((value.date, Enumeration.value value.platform), value)).map Prod.snd =
      allValues clientId ids rows := by
    rw [List.map_map]
    exact List.map_id _
  rw [pairs] at leaves
  rw [isResult]
  exact ⟨accepted, leaves⟩

/-- As many values are sent as the rows have cells. -/
theorem length_values :
    (dedup (allValues clientId ids rows)).values.length =
      (rows.map DailyIn.cell).dedup.length := by
  have cells : ((allValues clientId ids rows).map fun value =>
      ((value.date, Enumeration.value value.platform), value)).map Prod.fst =
      (rows.map DailyIn.cell).map fun cell => (cell.1, Enumeration.value cell.2) := by
    rw [List.map_map, map_allValues _ (fun row =>
      (row.date, Enumeration.value row.platform)) fun _ _ => rfl, List.map_map]
    rfl
  rw [dedup, Dict.length_values_ofList, cells, List.dedup_map_of_injective, List.length_map]
  intro left right same
  obtain ⟨date, platform⟩ := Prod.mk.inj same
  exact Prod.ext date (Enumeration.value_injective platform)

/-- The transaction goes through when the columns hold the figures of the values and the totals;
otherwise the database refuses it and nothing is stored. -/
theorem ingest_eq (store : Store) :
    ingest quotient clientId ids rows store =
      let facts := FactRow.upsert.rowByRow store.facts (dedup (allValues clientId ids rows)).values
      if (∀ value ∈ (dedup (allValues clientId ids rows)).values, value.figures.Fits) ∧
          (refresh quotient clientId
            (FactRow.upsert.rowByRow store.facts (allValues clientId ids rows))).Fits
      then (⟨facts, refresh quotient clientId facts⟩, .ok (rows.map DailyIn.cell).dedup.length)
      else (store, .error .database) := by
  obtain ⟨accepted, leaves⟩ :=
    @statement_leaves clientId ids rows store.facts
  have rollup : refresh quotient clientId (FactRow.upsert.rowByRow store.facts
      (dedup (allValues clientId ids rows)).values) = refresh quotient clientId
      (FactRow.upsert.rowByRow store.facts (allValues clientId ids rows)) := by
    rw [← refresh_map_withId 0, leaves.same 0, refresh_map_withId]
  dsimp only
  rw [rollup]
  unfold ingest
  by_cases fits : ∀ value ∈ (dedup (allValues clientId ids rows)).values, value.figures.Fits
  · simp only [if_pos fits, accepted, rollup, length_values]
    by_cases totals : (refresh quotient clientId
        (FactRow.upsert.rowByRow store.facts (allValues clientId ids rows))).Fits
    · rw [if_pos totals, if_pos ⟨fits, totals⟩]
    · rw [if_neg totals, if_neg fun both => totals both.2]
  · simp only [if_neg fits]
    rw [if_neg fun both => fits both.1]

/-- After the statement the cell of a row has the figures of its last row, as the columns hold
them. -/
theorem fact_stored (facts : List FactRow) {cell : Date × SocialPlatform} {row : DailyIn}
    (isLast : lastOf rows cell = some row) : ∃ fact,
      Table.get FactRow.upsert.key (FactRow.upsert.rowByRow facts
        (dedup (allValues clientId ids rows)).values) (clientId, cell) = some fact ∧
      fact.figures = row.figures.column ∧ fact.source = some "csv" := by
  have leaves := (@statement_leaves clientId ids rows facts).2
  have last := @last_allValues clientId ids rows FactRow (FactRow.upsert.withId 0)
    (factValues clientId 0) (fun _ _ => rfl) cell
  obtain ⟨value, isValue, content⟩ := Option.map_eq_some_iff.mp (isLast ▸ last)
  have found := FactRow.upsert.get_rowByRow 0 facts (allValues clientId ids rows) (clientId, cell)
  rw [isValue, Option.some_or, Option.map_some, content, ← Upsert.get_map_withId, ← leaves.same 0,
    Upsert.get_map_withId] at found
  obtain ⟨fact, isFact, same⟩ := Option.map_eq_some_iff.mp found
  exact ⟨fact, isFact, congrArg FactRow.figures same, congrArg FactRow.source same⟩

/-- The statement leaves every other cell as it was. -/
theorem fact_other {facts : List FactRow} {client : Uuid} {cell : Date × SocialPlatform}
    (other : client = clientId → lastOf rows cell = none) :
    Table.get FactRow.upsert.key (FactRow.upsert.rowByRow facts
      (dedup (allValues clientId ids rows)).values) (client, cell) =
      Table.get FactRow.upsert.key facts (client, cell) := by
  apply Upsert.get_rowByRow_unnamed
  intro named
  obtain ⟨value, inside, isKey⟩ := List.mem_map.mp named
  obtain ⟨sent, isLast⟩ := mem_values.mp inside
  obtain ⟨member, isSent⟩ := List.mem_filter.mp (List.mem_of_getLast? isLast)
  obtain ⟨⟨row, i⟩, listed, rfl⟩ := List.mem_map.mp member
  obtain ⟨isClient, isCell⟩ := Prod.mk.inj isKey
  exact lastOf_eq_none.mp (other isClient.symm) row (List.fst_mem_of_mem_zipIdx listed) isCell

end Statement

/-! ## The import -/

/-- The response to an import. -/
def responseOf (messages : List String) (upserted : Nat) : Response :=
  ⟨upserted, messages.length, messages.take 50⟩

/-- The import of a file whose records are all met and whose reading does not fail is exact when
the columns hold the figures and the totals. -/
theorem imported_iff {rows : List DailyIn} {store : Store} {errors : List String} {count : Nat}
    (counted : errors.length = count) :
    (∃ after response,
      ((ingest quotient clientId ids rows store).1,
        (ingest quotient clientId ids rows store).2.map (responseOf errors)) =
        (after, .ok response) ∧
      Imported clientId rows count store after response) ↔
    (∀ cell row, lastOf rows cell = some row → row.figures.Storable) ∧
      (refresh quotient clientId
        (FactRow.upsert.rowByRow store.facts (allValues clientId ids rows))).Fits := by
  rw [ingest_eq]
  dsimp only
  split
  · next accepted =>
    obtain ⟨fits, totals⟩ := accepted
    rw [fits_values_iff] at fits
    constructor
    · rintro ⟨_, _, ⟨⟩, imported⟩
      refine ⟨fun cell row isLast => ?_, totals⟩
      obtain ⟨fact, isFact, figures, -⟩ := imported.stored cell row isLast
      obtain ⟨fact', isFact', column, -⟩ := fact_stored store.facts isLast
      obtain rfl := Option.some.inj (isFact.symm.trans isFact')
      have exact' : row.figures.column = row.figures := column.symm.trans figures
      exact ⟨exact', exact' ▸ fits cell row isLast⟩
    · rintro ⟨storable, -⟩
      refine ⟨_, _, rfl, ?_, ?_, rfl, counted⟩
      · intro cell row isLast
        obtain ⟨fact, isFact, column, source⟩ := fact_stored store.facts isLast
        exact ⟨fact, isFact, column.trans (storable cell row isLast).1, source⟩
      · exact fun client cell other => fact_other other
  · next refused =>
    constructor
    · rintro ⟨_, _, ⟨⟩, _⟩
    · rintro ⟨storable, totals⟩
      refine absurd ⟨fits_values_iff.mpr fun cell row isLast => ?_, totals⟩ refused
      rw [(storable cell row isLast).1]
      exact (storable cell row isLast).2

/-- An import of a file it can open stores what it collects. -/
theorem importCsv_of_ok {raw : ByteArray} {file : Opened} {store : Store} {rows : List DailyIn}
    {messages : List String} (opened : openFile raw = .ok file)
    (collected : collect readers file.failure 2 [] [] file.records = .ok (rows, messages)) :
    importCsv readers quotient clientId ids raw store =
      if rows.isEmpty then (store, .ok (responseOf messages 0))
      else ((ingest quotient clientId ids rows store).1,
        (ingest quotient clientId ids rows store).2.map (responseOf messages)) := by
  unfold importCsv
  rw [opened]
  dsimp only
  rw [collected]
  rfl

/-- An import that fails while it reads stores nothing. -/
theorem importCsv_of_error {raw : ByteArray} {file : Opened} {store : Store} {failure : Failure}
    (opened : openFile raw = .ok file)
    (failed : collect readers file.failure 2 [] [] file.records = .error failure) :
    importCsv readers quotient clientId ids raw store = (store, .error failure) := by
  unfold importCsv
  rw [opened]
  dsimp only
  rw [failed]

/-- What is collected is stored or refused by the database. -/
theorem ingest_cases (rows : List DailyIn) (store : Store) :
    (ingest quotient clientId ids rows store).2 = .error .database ∨
      (ingest quotient clientId ids rows store).2 =
        .ok (rows.map DailyIn.cell).dedup.length := by
  rw [ingest_eq]
  dsimp only
  split
  · exact .inr rfl
  · exact .inl rfl

/-- The import of a file that is collected does not raise an `AppError`. -/
theorem importCsv_not_app {raw : ByteArray} {file : Opened} {store : Store} {rows : List DailyIn}
    {messages : List String} (opened : openFile raw = .ok file)
    (collected : collect readers file.failure 2 [] [] file.records = .ok (rows, messages))
    (error : AppError) :
    importCsv readers quotient clientId ids raw store ≠ (store, .error (.app error)) := by
  rw [importCsv_of_ok opened collected]
  intro refused
  split at refused
  · cases refused
  · have outcome := congrArg Prod.snd refused
    obtain failed | stored := @ingest_cases quotient clientId ids rows store
    · rw [failed] at outcome
      cases outcome
    · rw [stored] at outcome
      cases outcome

/-- The import of a file that is collected reports its messages as skipped. -/
theorem skipped_of_ok {raw : ByteArray} {file : Opened} {store after : Store}
    {rows : List DailyIn} {messages : List String} {response : Response}
    (opened : openFile raw = .ok file)
    (collected : collect readers file.failure 2 [] [] file.records = .ok (rows, messages))
    (done : importCsv readers quotient clientId ids raw store = (after, .ok response)) :
    response.skipped = messages.length := by
  rw [importCsv_of_ok opened collected] at done
  split at done
  · obtain rfl := Except.ok.inj (congrArg Prod.snd done)
    rfl
  · have outcome := congrArg Prod.snd done
    obtain failed | stored := @ingest_cases quotient clientId ids rows store
    · rw [failed] at outcome
      cases outcome
    · rw [stored] at outcome
      obtain rfl := Except.ok.inj outcome
      rfl

/-- A file that is read to its end without failure is imported exactly when the columns hold its
figures and the totals. -/
theorem imported_whole_iff {raw : ByteArray} {file : Opened} {store : Store}
    {messages : List String} {count : Nat} (opened : openFile raw = .ok file)
    (collected : collect readers file.failure 2 [] [] file.records =
      .ok (valid readers file.records, messages)) (counted : messages.length = count) :
    (∃ after response,
      importCsv readers quotient clientId ids raw store = (after, .ok response) ∧
      Imported clientId (valid readers file.records) count store after response) ↔
    (∀ cell row, lastOf (valid readers file.records) cell = some row →
      row.figures.Storable) ∧
      (valid readers file.records ≠ [] → (refresh quotient clientId (FactRow.upsert.rowByRow
        store.facts (allValues clientId ids (valid readers file.records)))).Fits) := by
  rw [importCsv_of_ok opened collected]
  generalize valid readers file.records = rows
  cases rows with
  | nil =>
    rw [List.isEmpty_nil, if_pos rfl]
    have none (cell : Date × SocialPlatform) (row : DailyIn) : lastOf [] cell ≠ some row :=
      Option.some_ne_none row |>.symm
    refine iff_of_true ⟨store, responseOf messages 0, rfl, ?_⟩
      ⟨fun cell row isLast => absurd isLast (none cell row), fun rest => absurd rfl rest⟩
    exact ⟨fun cell row isLast => absurd isLast (none cell row), fun _ _ _ => rfl, rfl, counted⟩
  | cons row rows =>
    rw [List.isEmpty_cons, if_neg Bool.false_ne_true]
    refine (imported_iff counted).trans (and_congr Iff.rfl ?_)
    exact ⟨fun totals _ => totals, fun totals => totals (List.cons_ne_nil _ _)⟩

/-- An import is total and exact precisely when it refuses the file or goes smoothly. -/
theorem importsExactly_iff (readers : Readers) (quotient : Amount → Int → Amount) (clientId : Uuid)
    (ids : Nat → Uuid) (raw : ByteArray) (store : Store) :
    ImportsExactly readers quotient clientId ids raw store ↔
      Smooth readers quotient clientId ids raw store := by
  unfold ImportsExactly Smooth recordsOf
  cases opened : openFile raw with
  | error failure =>
    have result : importCsv readers quotient clientId ids raw store = (store, .error failure) := by
      unfold importCsv
      rw [opened]
    rw [result]
    cases failure with
    | app error => exact iff_of_true (.inl ⟨error, rfl⟩) trivial
    | csv error =>
      refine iff_of_false ?_ id
      rintro (⟨_, ⟨⟩⟩ | ⟨_, _, ⟨⟩, _⟩)
    | database =>
      refine iff_of_false ?_ id
      rintro (⟨_, ⟨⟩⟩ | ⟨_, _, ⟨⟩, _⟩)
  | ok file =>
    dsimp only
    obtain ⟨messages, length, whole, stopped⟩ := @collect_eq readers file.records file.failure 2
      csvMaxRows [] [] (Nat.zero_add _)
    rw [List.length_nil, Nat.zero_add] at length
    rw [← valid_met]
    by_cases all : met readers csvMaxRows file.records = file.records
    · rw [all] at length ⊢
      cases failure : file.failure with
      | some error =>
        have failed : collect readers file.failure 2 [] [] file.records = .error (.csv error) := by
          rw [whole all, failure]
        rw [importCsv_of_error opened failed]
        refine iff_of_false ?_ ?_
        · rintro (⟨_, ⟨⟩⟩ | ⟨_, _, ⟨⟩, _⟩)
        · rintro ⟨⟨⟩, _⟩
      | none =>
        have collected : collect readers file.failure 2 [] [] file.records =
            .ok (valid readers file.records, messages) := by
          rw [whole all, failure]
          rfl
        rw [imported_whole_iff opened collected length]
        constructor
        · rintro (⟨error, refused⟩ | ⟨storable, totals⟩)
          · exact absurd refused (importCsv_not_app opened collected error)
          · exact ⟨rfl, rfl, storable, totals⟩
        · rintro ⟨-, -, storable, totals⟩
          exact .inr ⟨storable, totals⟩
    · have collected := stopped all
      refine iff_of_false ?_ fun smooth => all smooth.2.1
      rintro (⟨error, refused⟩ | ⟨after, response, done, imported⟩)
      · exact importCsv_not_app opened collected error refused
      · have skipped := skipped_of_ok opened collected done
        rw [imported.skipped, List.length_append, List.length_singleton, length] at skipped
        omega

/-! ## A lost file -/

/-- A file with a valid record before a stray carriage return. -/
def strayReturn : String := "date,platform\n2026-09-04,seo\na\rb"

/-- Readers that know the day of the valid record. -/
def sampleReaders : Readers where
  date text := if text = "2026-09-04" then .ok ⟨2026, 9, 4, by decide⟩ else .error "Invalid date"
  int _ := .error "Input should be a valid integer"
  float _ := .error "Input should be a valid number"
  noPlatform := "Input should be a platform"

/-- The valid record can be read, and then reading fails. -/
theorem strayReturn_rows : Csv.rows Csv.excel strayReturn =
    ([["date", "platform"], ["2026-09-04", "seo"]], some .newLine) := by decide +kernel

/-- The file with the stray carriage return fails the import, and the valid record is lost. -/
theorem stray_return_loses_record :
    ¬ImportsExactly sampleReaders (fun _ _ => .finite 0) 1 (fun i => i) strayReturn.toUTF8
      ⟨[], ⟨.finite 0, 0, .finite 0⟩⟩ := by
  have decoded : decode strayReturn.toUTF8 = some strayReturn := by
    have noMark : ¬(strayReturn.toUTF8.extract 0 3).data.toList = [0xEF, 0xBB, 0xBF] := by
      decide +kernel
    rw [decode, if_neg noMark]
    exact dif_pos strayReturn.isValidUTF8
  have opened : openFile strayReturn.toUTF8 =
      .ok ⟨Csv.records ["date", "platform"] [["2026-09-04", "seo"]], some .newLine⟩ := by
    rw [openFile, decoded]
    dsimp only
    rw [strayReturn_rows]
    rfl
  have failed : collect sampleReaders (some .newLine) 2 [] []
      (Csv.records ["date", "platform"] [["2026-09-04", "seo"]]) =
      .error (.csv .newLine) := by
    decide +kernel
  have result : importCsv sampleReaders (fun _ _ => .finite 0) 1 (fun i => i) strayReturn.toUTF8
      ⟨[], ⟨.finite 0, 0, .finite 0⟩⟩ = (⟨[], ⟨.finite 0, 0, .finite 0⟩⟩, .error (.csv .newLine)) :=
    importCsv_of_error opened failed
  rw [ImportsExactly, result]
  rintro (⟨_, ⟨⟩⟩ | ⟨_, _, ⟨⟩, _⟩)

end MarketingOS.AnalyticsImport
