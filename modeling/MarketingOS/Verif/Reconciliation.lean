import MarketingOS.Services.Intelligence.Orchestrator

/-!
# What reconciliation does to each directive

The result of `reconcile` position by position: the first directive of every key, in order, is
active, or is conflicted with the first prohibition before it in rank order that opposes it. The
review gate then changes a status at a position and nothing else.
-/
namespace MarketingOS.Intelligence

variable {tables : TextTables}

/-! ## Duplicates -/

/-- A directive that is kept is one of the extracted ones, under a key not seen before. -/
theorem mem_of_mem_dedupe {seen : List DirectiveKey} {directives : List Directive} {d : Directive}
    (kept : d ∈ dedupe tables seen directives) : d ∈ directives ∧ d.key tables ∉ seen := by
  induction directives generalizing seen with
  | nil => exact absurd kept List.not_mem_nil
  | cons first rest ih =>
    rw [dedupe] at kept
    split at kept
    · next known =>
      have ⟨inside, fresh⟩ := ih kept
      exact ⟨.tail _ inside, fresh⟩
    · next fresh =>
      rcases List.mem_cons.mp kept with rfl | later
      · exact ⟨.head _, fresh⟩
      · have ⟨inside, unseen⟩ := ih later
        exact ⟨.tail _ inside, fun known => unseen (.tail _ known)⟩

/-- No key is kept twice. -/
theorem nodup_keys_dedupe (tables : TextTables) (seen : List DirectiveKey)
    (directives : List Directive) :
    ((dedupe tables seen directives).map (Directive.key tables)).Nodup := by
  induction directives generalizing seen with
  | nil => exact List.nodup_nil
  | cons first rest ih =>
    rw [dedupe]
    split
    · exact ih seen
    · rw [List.map_cons, List.nodup_cons]
      refine ⟨fun again => ?_, ih _⟩
      obtain ⟨d, kept, same⟩ := List.mem_map.mp again
      exact (mem_of_mem_dedupe kept).2 (same ▸ List.mem_cons_self)

/-- Every key that is extracted is kept once. -/
theorem mem_keys_dedupe {directives : List Directive} {key : DirectiveKey} :
    key ∈ (dedupe tables [] directives).map (Directive.key tables) ↔
      key ∈ directives.map (Directive.key tables) := by
  have general : ∀ seen, key ∉ seen → (key ∈ (dedupe tables seen directives).map
      (Directive.key tables) ↔ key ∈ directives.map (Directive.key tables)) := by
    induction directives with
    | nil => exact fun _ _ => Iff.rfl
    | cons first rest ih =>
      intro seen fresh
      rw [dedupe, List.map_cons, List.mem_cons]
      split
      · next known =>
        have apart : key ≠ first.key tables := fun same => fresh (same ▸ known)
        rw [ih seen fresh]
        exact ⟨.inr, fun either => either.resolve_left apart⟩
      · rw [List.map_cons, List.mem_cons]
        by_cases same : key = first.key tables
        · exact ⟨fun _ => .inl same, fun _ => .inl same⟩
        · have still : key ∉ first.key tables :: seen := by
            rw [List.mem_cons, not_or]
            exact ⟨same, fresh⟩
          rw [ih _ still]
  exact general [] List.not_mem_nil

/-- Of two positions the first comes earlier in rank order: its rank is lower, or the ranks are
equal and it was extracted earlier. -/
def Precedes (unique : List Directive) (i j : Nat) : Prop :=
  rankAt unique i < rankAt unique j ∨ (rankAt unique i = rankAt unique j ∧ i < j)

/-- The rank order of two positions. -/
theorem pair_sublist_rankOrder {unique : List Directive} {i j : Nat} (left : i < unique.length)
    (right : j < unique.length) : [i, j].Sublist (rankOrder unique) ↔ Precedes unique i j := by
  rw [rankOrder, StableSort.pair_sublist_sortBy List.nodup_range (List.mem_range.mpr left)
    (List.mem_range.mpr right), StableSort.pair_sublist_range left right]
  rfl

/-! ## Conflicts -/

/-- The directive at one position opposes the one at another. -/
def opposesAt (tables : TextTables) (unique : List Directive) (i j : Nat) : Bool :=
  match unique[i]?, unique[j]? with
  | some a, some b => opposes tables a b
  | _, _ => false

/-- The first position of an order that comes before another and opposes it. -/
def firstOpponent (tables : TextTables) (unique : List Directive) : List Nat → Nat → Option Nat
  | [], _ => none
  | i :: later, j =>
    if j ∈ later ∧ opposesAt tables unique i j then some i
    else firstOpponent tables unique later j

/-- What becomes of the directive at a position. -/
def settle (opponent : Option Nat) (r : Reconciled) : Reconciled :=
  match r.status, opponent with
  | .active, some i => { r with
      status := .conflicted
      conflictsWithIndex := some i }
  | _, _ => r

variable {unique : List Directive}

@[simp] theorem settle_none : settle none = id := by
  funext r
  unfold settle
  split
  · next found => cases found
  · rfl

/-- A directive that is not active any more is settled already. -/
theorem settle_inactive {opponent : Option Nat} {r : Reconciled} (settled : r.status ≠ .active) :
    settle opponent r = r := by
  unfold settle
  split
  · contradiction
  · rfl

/-- A directive is settled by the first opponent that is tried. -/
theorem settle_settle (first second : Option Nat) (r : Reconciled) :
    settle second (settle first r) = settle (first.or second) r := by
  cases first with
  | none => rw [settle_none, Option.none_or, id]
  | some i =>
    rw [Option.some_or]
    by_cases active : r.status = .active
    · simp only [settle, active]
    · rw [settle_inactive active, settle_inactive active]

/-- Only a prohibition opposes anything. -/
theorem mustNot_of_opposesAt {i j : Nat} (opposed : opposesAt tables unique i j = true) :
    unique[i]?.map Directive.type = some .mustNot := by
  unfold opposesAt at opposed
  split at opposed
  · next a b left right =>
    have facts := of_decide_eq_true opposed
    rw [left, Option.map_some, facts.1]
  · cases opposed

/-- Marking one position changes that position only. -/
theorem getElem?_markOne (i : Nat) (result : List Reconciled) (marked j : Nat) :
    (markOne tables unique i result marked)[j]? = result[j]?.map
      (settle (if j = marked ∧ opposesAt tables unique i j then some i else none)) := by
  by_cases same : j = marked
  · subst same
    unfold markOne opposesAt
    cases left : unique[i]? with
    | none => simp
    | some a =>
      cases right : unique[j]? with
      | none => simp
      | some b =>
        cases row : result[j]? with
        | none => simp [row]
        | some r =>
          have bound : j < result.length := (List.getElem?_eq_some_iff.mp row).1
          by_cases opposed : opposes tables a b = true
          · by_cases active : r.status = .active
            · simp only [opposed, active, and_self, ↓reduceIte, List.getElem?_set, bound, settle,
                Option.map_some]
            · simp [opposed, active, row, settle_inactive active]
          · simp [opposed, row]
  · have untouched : (markOne tables unique i result marked)[j]? = result[j]? := by
      unfold markOne
      split
      · split
        · exact List.getElem?_set_ne (Ne.symm same)
        · rfl
      · rfl
    rw [untouched, if_neg fun both => same both.1]
    simp

/-- Marking every later position that one prohibition opposes. -/
theorem getElem?_foldl_markOne (i : Nat) (later : List Nat) (result : List Reconciled) (j : Nat) :
    (later.foldl (markOne tables unique i) result)[j]? = result[j]?.map
      (settle (if j ∈ later ∧ opposesAt tables unique i j then some i else none)) := by
  induction later generalizing result with
  | nil => simp
  | cons marked rest ih =>
    rw [List.foldl_cons, ih, getElem?_markOne, Option.map_map]
    congr 1
    funext r
    rw [Function.comp, settle_settle]
    congr 1
    by_cases opposed : opposesAt tables unique i j = true
    · by_cases here : j = marked
      · have inside : j ∈ marked :: rest := List.mem_cons.mpr (.inl here)
        rw [if_pos ⟨here, opposed⟩, Option.some_or, if_pos ⟨inside, opposed⟩]
      · simp [opposed, here]
    · simp [opposed]

/-- Marking in an order settles every position by the first that comes before it and opposes
it. -/
theorem getElem?_markAll (order : List Nat) (result : List Reconciled) (j : Nat) :
    (markAll tables unique order result)[j]? =
      result[j]?.map (settle (firstOpponent tables unique order j)) := by
  induction order generalizing result with
  | nil =>
    simp only [markAll, firstOpponent]
    simp
  | cons i later ih =>
    rw [markAll, ih, firstOpponent]
    by_cases opposed : j ∈ later ∧ opposesAt tables unique i j = true
    · rw [if_pos (mustNot_of_opposesAt opposed.2), getElem?_foldl_markOne, if_pos opposed,
        Option.map_map, if_pos opposed]
      congr 1
      funext r
      rw [Function.comp, settle_settle, Option.some_or]
    · rw [if_neg opposed]
      split
      · rw [getElem?_foldl_markOne, if_neg opposed, Option.map_map]
        congr 1
        funext r
        rw [Function.comp, settle_none, id]
      · rfl

/-- The first opponent of a position, if there is any, comes before it and opposes it. -/
theorem firstOpponent_some {order : List Nat} {i j : Nat}
    (first : firstOpponent tables unique order j = some i) :
    [i, j].Sublist order ∧ opposesAt tables unique i j = true := by
  induction order with
  | nil => cases first
  | cons k later ih =>
    rw [firstOpponent] at first
    split at first
    · next opposed =>
      obtain rfl := Option.some.inj first
      exact ⟨(List.singleton_sublist.mpr opposed.1).cons_cons k, opposed.2⟩
    · have ⟨inside, opposed⟩ := ih first
      exact ⟨inside.cons k, opposed⟩

/-- A position without a first opponent has none at all. -/
theorem firstOpponent_none {order : List Nat} {j : Nat}
    (none : firstOpponent tables unique order j = none) {i : Nat} (before : [i, j].Sublist order) :
    opposesAt tables unique i j = false := by
  induction order with
  | nil => cases before
  | cons k later ih =>
    rw [firstOpponent] at none
    split at none
    · cases none
    · next unopposed =>
      cases before with
      | cons _ before => exact ih none before
      | cons_cons _ inside =>
        rw [List.singleton_sublist] at inside
        rw [← Bool.not_eq_true]
        exact fun opposed => unopposed ⟨inside, opposed⟩

/-! ## The result -/

/-- Reconciliation, position by position. -/
theorem getElem?_reconcile (directives : List Directive) (j : Nat) :
    (reconcile tables directives)[j]? = (dedupe tables [] directives)[j]?.map fun d =>
      settle (firstOpponent tables (dedupe tables [] directives)
        (rankOrder (dedupe tables [] directives)) j) ⟨d, .active, none⟩ := by
  rw [reconcile, getElem?_markAll, List.getElem?_map, Option.map_map]
  rfl

/-- Settling keeps the directive. -/
theorem directive_settle (opponent : Option Nat) (r : Reconciled) :
    (settle opponent r).directive = r.directive := by
  unfold settle
  split
  · rfl
  · rfl

/-- Reconciliation drops duplicates and no other directive, and keeps the order. -/
theorem directives_reconcile (tables : TextTables) (directives : List Directive) :
    (reconcile tables directives).map Reconciled.directive = dedupe tables [] directives := by
  apply List.ext_getElem?
  intro j
  rw [List.getElem?_map, getElem?_reconcile, Option.map_map]
  have same : (Reconciled.directive ∘ fun d => settle (firstOpponent tables
      (dedupe tables [] directives) (rankOrder (dedupe tables [] directives)) j)
        ⟨d, .active, none⟩) = id := by
    funext d
    rw [Function.comp, directive_settle, id]
  rw [same, Option.map_id, id]

/-- A directive is reconciled where it is kept. -/
theorem getElem?_dedupe_of_reconcile {directives : List Directive} {j : Nat} {r : Reconciled}
    (row : (reconcile tables directives)[j]? = some r) :
    (dedupe tables [] directives)[j]? = some r.directive := by
  rw [← directives_reconcile, List.getElem?_map, row, Option.map_some]

/-- Under one key one directive is kept, at one place. -/
theorem place_unique {directives : List Directive} {i j : Nat} {d e : Directive}
    (first : (dedupe tables [] directives)[i]? = some d)
    (second : (dedupe tables [] directives)[j]? = some e) (same : d.key tables = e.key tables) :
    i = j := by
  have nodup := nodup_keys_dedupe tables [] directives
  have bound : i < ((dedupe tables [] directives).map (Directive.key tables)).length := by
    rw [List.length_map]
    exact (List.getElem?_eq_some_iff.mp first).1
  apply (List.getElem?_inj bound nodup).mp
  rw [List.getElem?_map, List.getElem?_map, first, second, Option.map_some, Option.map_some, same]

/-- What reconciliation decides for the directive at a position: it is active and nothing before it
in rank order opposes it, or it is conflicted with one that does. -/
inductive Decision (tables : TextTables) (unique : List Directive) (j : Nat) : Reconciled → Prop
  | active {d : Directive} (place : unique[j]? = some d)
    (unopposed : ∀ i < unique.length, Precedes unique i j → opposesAt tables unique i j = false) :
    Decision tables unique j ⟨d, .active, none⟩
  | conflicted {d : Directive} (i : Nat) (place : unique[j]? = some d) (bound : i < unique.length)
    (before : Precedes unique i j) (opposed : opposesAt tables unique i j = true) :
    Decision tables unique j ⟨d, .conflicted, some i⟩

/-- Reconciliation decides every position. -/
theorem decision_of_getElem? {directives : List Directive} {j : Nat} {r : Reconciled}
    (row : (reconcile tables directives)[j]? = some r) :
    Decision tables (dedupe tables [] directives) j r := by
  rw [getElem?_reconcile] at row
  obtain ⟨d, place, rfl⟩ := Option.map_eq_some_iff.mp row
  have bound : j < (dedupe tables [] directives).length := (List.getElem?_eq_some_iff.mp place).1
  cases first : firstOpponent tables (dedupe tables [] directives)
      (rankOrder (dedupe tables [] directives)) j with
  | none =>
    rw [settle_none, id]
    refine .active place fun i left before => ?_
    exact firstOpponent_none first ((pair_sublist_rankOrder left bound).mpr before)
  | some i =>
    have ⟨inside, opposed⟩ := firstOpponent_some first
    have left : i < (dedupe tables [] directives).length := by
      have listed : i ∈ rankOrder (dedupe tables [] directives) := inside.subset List.mem_cons_self
      rw [rankOrder, StableSort.mem_sortBy, List.mem_range] at listed
      exact listed
    exact .conflicted i place left ((pair_sublist_rankOrder left bound).mp inside) opposed

/-- What is opposed is a requirement or a preference. -/
theorem type_of_opposesAt {i j : Nat} {d : Directive} (place : unique[j]? = some d)
    (opposed : opposesAt tables unique i j = true) : d.type = .must ∨ d.type = .prefer := by
  unfold opposesAt at opposed
  rw [place] at opposed
  split at opposed
  · next a b left right =>
    obtain rfl := Option.some.inj right
    exact (of_decide_eq_true opposed).2.2.1
  · cases opposed

/-- A prohibition is never conflicted. -/
theorem active_of_mustNot {directives : List Directive} {r : Reconciled}
    (inside : r ∈ reconcile tables directives) (prohibition : r.directive.type = .mustNot) :
    r.status = .active := by
  obtain ⟨j, row⟩ := List.getElem?_of_mem inside
  cases decision_of_getElem? row with
  | active place unopposed => rfl
  | conflicted i place bound before opposed =>
    have weaker := type_of_opposesAt place opposed
    rw [prohibition] at weaker
    simp at weaker

/-! ## Review gate -/

/-- What is active after the gate was active before it, and needs no review or is approved. -/
theorem mem_gate_active {approved : List DirectiveKey} {reconciled : List Reconciled}
    {r : Reconciled} : (r ∈ gateNewRestrictions tables approved reconciled ∧ r.status = .active) ↔
      r ∈ reconciled ∧ r.status = .active ∧
        (needsReview r.directive.type r.directive.capabilityFlags = true →
          r.directive.key tables ∈ approved) := by
  rw [gateNewRestrictions, List.mem_map]
  constructor
  · rintro ⟨⟨before, inside, rfl⟩, active⟩
    split at active
    · cases active
    · next passed =>
      rw [if_neg passed]
      refine ⟨inside, active, fun needs => ?_⟩
      by_contra unapproved
      exact passed ⟨active, needs, unapproved⟩
  · rintro ⟨inside, active, cleared⟩
    refine ⟨⟨r, inside, ?_⟩, active⟩
    rw [if_neg]
    rintro ⟨-, needs, unapproved⟩
    exact unapproved (cleared needs)

/-- The directives after the gate are those before it. -/
theorem directives_gate (approved : List DirectiveKey) (reconciled : List Reconciled) :
    (gateNewRestrictions tables approved reconciled).map Reconciled.directive =
      reconciled.map Reconciled.directive := by
  rw [gateNewRestrictions, List.map_map]
  apply List.map_congr_left
  intro r _
  rw [Function.comp]
  split
  · rfl
  · rfl

end MarketingOS.Intelligence
