import Mathlib.Algebra.Order.Field.Basic
import Mathlib.Data.Rat.Cast.Order
import Mathlib.Tactic.NormNum
import MarketingOS.Verif.Reconciliation

/-!
# No opposing pair stays active

A prohibition outranks every requirement and every preference, so the marking loop meets each pair
the right way round: a weaker rule is conflicted exactly if a kept prohibition of its category
overlaps it, whatever the order of the list it came in.
-/
namespace MarketingOS.Intelligence

variable {tables : TextTables}

/-! ## Ranks -/

/-- A directive with the type, the tier and the rank of a normalized one. -/
def Ranked (d : Directive) : Prop :=
  ∃ dtype category text confidence sourceKey n,
    normalize dtype category text confidence sourceKey = some n ∧
      d.type = n.type ∧ d.tier = n.tier ∧ d.rank = n.rank

/-- The rank a normalized directive gets. -/
theorem Ranked.rank {d : Directive} (ranked : Ranked d) :
    d.rank = (tierByType d.type).2 ∨ ((tierByType d.type).1 = .preference ∧ d.rank = 50) := by
  obtain ⟨dtype, category, text, confidence, sourceKey, n, made, type, -, rank⟩ := ranked
  rw [type, rank]
  by_cases low : confidence < 1 / 2 ∧
      (tierByType ((Enumeration.ofValue dtype).getD DirectiveType.prefer)).1 = .preference
  · simp only [normalize, if_pos low] at made
    obtain ⟨-, made⟩ := Option.ite_none_left_eq_some.mp made
    obtain rfl := Option.some.inj made
    exact .inr ⟨low.2, rfl⟩
  · simp only [normalize, if_neg low] at made
    obtain ⟨-, made⟩ := Option.ite_none_left_eq_some.mp made
    obtain rfl := Option.some.inj made
    exact .inl rfl

/-- A prohibition has rank 0. -/
theorem Ranked.rank_mustNot {d : Directive} (ranked : Ranked d) (type : d.type = .mustNot) :
    d.rank = 0 := by
  rcases ranked.rank with rank | ⟨preference, -⟩
  · rw [rank, type]
    rfl
  · rw [type] at preference
    cases preference

/-- A requirement or a preference has a positive rank. -/
theorem Ranked.rank_weaker {d : Directive} (ranked : Ranked d)
    (type : d.type = .must ∨ d.type = .prefer) : 0 < d.rank := by
  rcases ranked.rank with rank | ⟨-, rank⟩
  · rcases type with type | type
    · rw [rank, type]
      decide
    · rw [rank, type]
      decide
  · omega

/-- A prohibition comes before what it opposes. -/
theorem precedes_of_opposesAt {unique : List Directive} (ranked : ∀ d ∈ unique, Ranked d)
    {i j : Nat} (opposed : opposesAt tables unique i j = true) : Precedes unique i j := by
  unfold opposesAt at opposed
  split at opposed
  · next a b left right =>
    have facts := of_decide_eq_true opposed
    have first := (ranked a (List.mem_of_getElem? left)).rank_mustNot facts.1
    have second := (ranked b (List.mem_of_getElem? right)).rank_weaker facts.2.2.1
    refine .inl ?_
    rw [rankAt, rankAt, left, right, Option.map_some, Option.map_some, Option.getD_some,
      Option.getD_some]
    omega
  · cases opposed

/-! ## Overlap -/

/-- `_jaccard` -/
def jaccard (a b : Finset (List Char)) : Rat :=
  if a = ∅ ∨ b = ∅ then 0 else (a ∩ b).card / (a ∪ b).card

/-- Sets overlap when at least half of all their tokens are in both. -/
theorem overlaps_iff (a b : Finset (List Char)) : overlaps a b = true ↔ 1 / 2 ≤ jaccard a b := by
  unfold overlaps jaccard
  rw [decide_eq_true_eq]
  by_cases empty : a = ∅ ∨ b = ∅
  · rw [if_pos empty]
    have never : ¬(1 / 2 : Rat) ≤ 0 := by norm_num
    exact ⟨fun both => absurd empty (not_or.mpr ⟨both.1, both.2.1⟩), fun half => absurd half never⟩
  · rw [if_neg empty]
    rw [not_or] at empty
    have positive : (0 : Rat) < (a ∪ b).card := by
      rw [Nat.cast_pos, Finset.card_pos]
      exact (Finset.nonempty_of_ne_empty empty.1).mono Finset.subset_union_left
    rw [div_le_div_iff₀ two_pos positive, one_mul]
    constructor
    · rintro ⟨-, -, half⟩
      exact_mod_cast (by omega : (a ∪ b).card ≤ (a ∩ b).card * 2)
    · intro half
      have counted : (a ∪ b).card ≤ (a ∩ b).card * 2 := by exact_mod_cast half
      exact ⟨empty.1, empty.2, by omega⟩

/-- One rule opposes another: a prohibition, of its category, that overlaps it. -/
def Opposed (tables : TextTables) (a b : Directive) : Prop :=
  a.type = .mustNot ∧ a.category = b.category ∧
    1 / 2 ≤ jaccard (tokens tables a.text) (tokens tables b.text)

/-- What the loop tests. -/
theorem opposes_iff {a b : Directive} :
    opposes tables a b = true ↔ (b.type = .must ∨ b.type = .prefer) ∧ Opposed tables a b := by
  unfold opposes Opposed
  rw [decide_eq_true_eq, overlaps_iff]
  constructor
  · rintro ⟨type, category, weaker, half⟩
    exact ⟨weaker, type, category.symm, half⟩
  · rintro ⟨weaker, type, category, half⟩
    exact ⟨type, category.symm, weaker, half⟩

/-! ## Conflicts -/

variable {directives : List Directive}

/-- What is kept has the rank it was given. -/
theorem ranked_dedupe (ranked : ∀ d ∈ directives, Ranked d) :
    ∀ d ∈ dedupe tables [] directives, Ranked d :=
  fun d kept => ranked d (mem_of_mem_dedupe kept).1

/-- A kept directive is reconciled. -/
theorem exists_reconciled {d : Directive} (kept : d ∈ dedupe tables [] directives) :
    ∃ r ∈ reconcile tables directives, r.directive = d := by
  rw [← directives_reconcile] at kept
  exact List.mem_map.mp kept

/-- A reconciled directive is kept. -/
theorem mem_dedupe_of_reconcile {r : Reconciled} (inside : r ∈ reconcile tables directives) :
    r.directive ∈ dedupe tables [] directives := by
  rw [← directives_reconcile]
  exact List.mem_map_of_mem inside

/-- The opposition of two positions is that of the directives there. -/
theorem opposesAt_iff {unique : List Directive} {i j : Nat} {b : Directive}
    (right : unique[j]? = some b) :
    opposesAt tables unique i j = true ↔ ∃ a, unique[i]? = some a ∧ opposes tables a b = true := by
  unfold opposesAt
  rw [right]
  cases left : unique[i]? with
  | none => simp
  | some a => simp

/-- A rule is conflicted exactly if a kept rule opposes it, and then it names the place of one that
does. -/
theorem decided (ranked : ∀ d ∈ directives, Ranked d) {r : Reconciled}
    (inside : r ∈ reconcile tables directives) :
    (r.status = .active ∧ r.conflictsWithIndex = none ∧
      ∀ a ∈ reconcile tables directives, opposes tables a.directive r.directive = false) ∨
    (r.status = .conflicted ∧ ∃ i a, r.conflictsWithIndex = some i ∧
      (reconcile tables directives)[i]? = some a ∧
        opposes tables a.directive r.directive = true) := by
  obtain ⟨j, row⟩ := List.getElem?_of_mem inside
  have place := getElem?_dedupe_of_reconcile row
  cases decision_of_getElem? row with
  | @active d _ unopposed =>
    refine .inl ⟨rfl, rfl, fun a kept => ?_⟩
    obtain ⟨i, left⟩ := List.getElem?_of_mem kept
    have first := getElem?_dedupe_of_reconcile left
    have bound := (List.getElem?_eq_some_iff.mp first).1
    rw [← Bool.not_eq_true]
    intro opposed
    have both := (opposesAt_iff place).mpr ⟨a.directive, first, opposed⟩
    have before := precedes_of_opposesAt (ranked_dedupe ranked) both
    rw [unopposed i bound before] at both
    cases both
  | @conflicted d i _ bound before opposed =>
    obtain ⟨a, left, opposing⟩ := (opposesAt_iff place).mp opposed
    have listed : (reconcile tables directives)[i]?.map Reconciled.directive = some a := by
      rw [← List.getElem?_map, directives_reconcile]
      exact left
    obtain ⟨first, found, rfl⟩ := Option.map_eq_some_iff.mp listed
    exact .inr ⟨rfl, i, first, rfl, found, opposing⟩

/-- A kept rule is conflicted exactly if a kept rule opposes it. -/
theorem conflicted_iff (ranked : ∀ d ∈ directives, Ranked d) {r : Reconciled}
    (inside : r ∈ reconcile tables directives) :
    r.status = .conflicted ↔ (r.directive.type = .must ∨ r.directive.type = .prefer) ∧
      ∃ a ∈ reconcile tables directives, Opposed tables a.directive r.directive := by
  rcases decided ranked inside with ⟨active, -, unopposed⟩ | ⟨conflicted, i, a, -, found, opposing⟩
  · constructor
    · intro conflicted
      rw [active] at conflicted
      cases conflicted
    · rintro ⟨weaker, a, kept, opposed⟩
      have opposing := opposes_iff.mpr ⟨weaker, opposed⟩
      rw [unopposed a kept] at opposing
      cases opposing
  · have ⟨weaker, opposed⟩ := opposes_iff.mp opposing
    exact ⟨fun _ => ⟨weaker, a, List.mem_of_getElem? found, opposed⟩, fun _ => conflicted⟩

/-! ## Order -/

/-- The texts of the rules that are conflicted. -/
def conflictedTexts (tables : TextTables) (directives : List Directive) : Set String :=
  {text | ∃ r ∈ reconcile tables directives, r.status = .conflicted ∧ r.directive.text = text}

/-- Duplicates differ in nothing that is compared. -/
def SameDuplicates (tables : TextTables) (directives : List Directive) : Prop :=
  ∀ d ∈ directives, ∀ e ∈ directives, d.key tables = e.key tables →
    d.category = e.category ∧ d.text = e.text

/-- A directive kept of one order has its like among those kept of another. -/
theorem exists_alike {directives' : List Directive} (perm : directives.Perm directives')
    (same : SameDuplicates tables directives) {d : Directive}
    (kept : d ∈ dedupe tables [] directives) :
    ∃ e ∈ dedupe tables [] directives', e.type = d.type ∧ e.category = d.category ∧
      e.text = d.text := by
  have inside := (mem_of_mem_dedupe kept).1
  have listed : d.key tables ∈ (dedupe tables [] directives').map (Directive.key tables) :=
    mem_keys_dedupe.mpr (List.mem_map_of_mem (perm.mem_iff.mp inside))
  obtain ⟨e, keptToo, key⟩ := List.mem_map.mp listed
  have there := perm.mem_iff.mpr (mem_of_mem_dedupe keptToo).1
  obtain ⟨category, text⟩ := same e there d inside key
  exact ⟨e, keptToo, congrArg Prod.fst key, category, text⟩

/-- What is conflicted in one order is conflicted in another. -/
theorem conflictedTexts_subset {directives' : List Directive} (perm : directives.Perm directives')
    (ranked : ∀ d ∈ directives, Ranked d) (same : SameDuplicates tables directives) :
    conflictedTexts tables directives ⊆ conflictedTexts tables directives' := by
  rintro _ ⟨r, inside, conflicted, rfl⟩
  have ranked' : ∀ d ∈ directives', Ranked d := fun d there => ranked d (perm.mem_iff.mpr there)
  obtain ⟨weaker, a, kept, type, category, half⟩ := (conflicted_iff ranked inside).mp conflicted
  obtain ⟨d, keptD, typeD, categoryD, textD⟩ :=
    exists_alike perm same (mem_dedupe_of_reconcile inside)
  obtain ⟨e, keptE, typeE, categoryE, textE⟩ :=
    exists_alike perm same (mem_dedupe_of_reconcile kept)
  obtain ⟨r', insideToo, rfl⟩ := exists_reconciled keptD
  obtain ⟨a', keptToo, rfl⟩ := exists_reconciled keptE
  refine ⟨r', insideToo, (conflicted_iff ranked' insideToo).mpr ⟨?_, a', keptToo, ?_, ?_, ?_⟩, textD⟩
  · rwa [typeD]
  · rw [typeE, type]
  · rw [categoryE, categoryD, category]
  · rwa [textE, textD]

/-! ## The first of each -/

/-- The entries of a list that no earlier one shares a key with, in order. -/
def firstsBy {ρ κ : Type} [DecidableEq κ] (key : ρ → κ) (entries : List ρ) : List ρ :=
  (entries.zipIdx.filter fun place =>
    decide (key place.1 ∉ (entries.take place.2).map key)).map Prod.fst

/-- The directives that no earlier one shares a key with, in order. -/
def firsts (tables : TextTables) (directives : List Directive) : List Directive :=
  firstsBy (Directive.key tables) directives

/-- De-duplication keeps the first directive of each key, and no other. -/
theorem dedupe_eq_firsts (tables : TextTables) (directives : List Directive) :
    dedupe tables [] directives = firsts tables directives := by
  have general (early late : List Directive) (seen : List DirectiveKey)
      (known : ∀ key, key ∈ seen ↔ key ∈ early.map (Directive.key tables)) :
      dedupe tables seen late = ((late.zipIdx early.length).filter fun place =>
        decide (place.1.key tables ∉
          ((early ++ late).take place.2).map (Directive.key tables))).map Prod.fst := by
    induction late generalizing early seen with
    | nil => rfl
    | cons d rest ih =>
      have whole : early ++ d :: rest = (early ++ [d]) ++ rest := by simp
      have later := fun seen' known' => ih (early ++ [d]) seen' known'
      rw [List.length_append, List.length_singleton, ← whole] at later
      rw [dedupe, List.zipIdx_cons, List.filter_cons, List.take_left' rfl]
      by_cases twice : d.key tables ∈ seen
      · have listed := (known _).mp twice
        rw [if_pos twice, if_neg (by simp only [listed, not_true_eq_false, decide_false,
          Bool.false_eq_true, not_false_eq_true])]
        refine later seen fun key => ?_
        rw [known, List.map_append, List.mem_append]
        refine ⟨.inl, fun either => either.elim id fun last => ?_⟩
        rw [List.map_singleton, List.mem_singleton] at last
        exact last ▸ listed
      · have unlisted : d.key tables ∉ early.map (Directive.key tables) :=
          fun listed => twice ((known _).mpr listed)
        rw [if_neg twice, if_pos (decide_eq_true unlisted), List.map_cons]
        congr 1
        refine later (d.key tables :: seen) fun key => ?_
        rw [List.mem_cons, known, List.map_append, List.mem_append, List.map_singleton,
          List.mem_singleton]
        exact or_comm
  rw [general [] directives [] fun key => Iff.rfl, firsts, firstsBy]
  simp only [List.nil_append, List.length_nil, decide_not]

/-- **No opposing pair stays active.** For directives ranked by their types, reconciliation keeps
the first of each key, in order; a requirement or a preference is conflicted exactly if a kept
prohibition of its category overlaps it, and names the place of such a one; nothing else is; and
what is conflicted does not depend on the order, unless duplicates differ. -/
theorem restrictions_win (tables : TextTables) (directives : List Directive)
    (ranked : ∀ d ∈ directives, Ranked d) :
    (reconcile tables directives).map Reconciled.directive = firsts tables directives ∧
    (∀ r ∈ reconcile tables directives,
      (r.status = .active ∧ r.conflictsWithIndex = none ∨ r.status = .conflicted) ∧
      (r.status = .conflicted ↔ (r.directive.type = .must ∨ r.directive.type = .prefer) ∧
        ∃ a ∈ reconcile tables directives, Opposed tables a.directive r.directive) ∧
      (r.status = .conflicted → ∃ i a, r.conflictsWithIndex = some i ∧
        (reconcile tables directives)[i]? = some a ∧
          Opposed tables a.directive r.directive)) ∧
    (∀ a ∈ reconcile tables directives, ∀ r ∈ reconcile tables directives,
      r.directive.type = .must ∨ r.directive.type = .prefer → r.status = .active →
        ¬Opposed tables a.directive r.directive) ∧
    ∀ directives', directives.Perm directives' → SameDuplicates tables directives →
      conflictedTexts tables directives' = conflictedTexts tables directives := by
  refine ⟨?_, fun r inside => ⟨?_, conflicted_iff ranked inside, fun conflicted => ?_⟩, ?_, ?_⟩
  · rw [directives_reconcile, dedupe_eq_firsts]
  · exact (decided ranked inside).imp (fun active => ⟨active.1, active.2.1⟩) And.left
  · rcases decided ranked inside with ⟨active, -⟩ | ⟨-, i, a, index, found, opposing⟩
    · rw [active] at conflicted
      cases conflicted
    · exact ⟨i, a, index, found, (opposes_iff.mp opposing).2⟩
  · intro a kept r inside weaker active opposed
    have conflicted := (conflicted_iff ranked inside).mpr ⟨weaker, a, kept, opposed⟩
    rw [active] at conflicted
    cases conflicted
  · intro directives' perm same
    have ranked' : ∀ d ∈ directives', Ranked d := fun d there => ranked d (perm.mem_iff.mpr there)
    have same' : SameDuplicates tables directives' := fun d inside e there =>
      same d (perm.mem_iff.mpr inside) e (perm.mem_iff.mpr there)
    exact Set.Subset.antisymm (conflictedTexts_subset perm.symm ranked' same')
      (conflictedTexts_subset perm ranked same)

/-- A directive of a model reply. -/
def sampleRule (type : DirectiveType) (category text : String) : Directive where
  type := type
  category := category
  text := text
  tier := (tierByType type).1
  rank := (tierByType type).2
  confidence := 1
  capabilityFlags := .empty
  sourceKey := none

/-- A prohibition, and one requirement under two categories. -/
def sampleRules : List Directive :=
  [sampleRule .must "design" "Logo", sampleRule .must "brand" "Logo",
    sampleRule .mustNot "design" "Logo"]

/-- The rules with the requirements swapped. -/
def sampleSwapped : List Directive :=
  [sampleRule .must "brand" "Logo", sampleRule .must "design" "Logo",
    sampleRule .mustNot "design" "Logo"]

/-- A sample rule is ranked. -/
theorem ranked_sampleRule (type : DirectiveType) (category text : String) :
    Ranked (sampleRule type category text) := by
  have sure : ((1 : Rat) < 1 / 2) = False := by norm_num
  have made : normalize (Enumeration.value type) "design" "Logo" 1 none =
      some { sampleRule type "design" (clip 2000 "Logo") with
        confidence := roundHalfEven (1 * 1000) / 1000 } := by
    rw [normalize, if_neg (by simp), Enumeration.ofValue_value, Option.getD_some]
    simp only [sure, false_and, if_false]
    rfl
  exact ⟨_, _, _, _, _, _, made, rfl, rfl, rfl⟩

/-- The sample rules are ranked. -/
theorem sampleRules_ranked : ∀ d ∈ sampleRules, Ranked d := by
  intro d inside
  simp only [sampleRules, List.mem_cons, List.not_mem_nil, or_false] at inside
  rcases inside with rfl | rfl | rfl
  all_goals exact ranked_sampleRule _ _ _

/-- What is decided for the sample rules. -/
theorem sampleRules_decided : (reconcile TextTables.ascii sampleRules).map (fun r =>
    (r.status, r.directive.text)) = [(.conflicted, "Logo"), (.active, "Logo")] := by
  decide +kernel

/-- Of the sample rules the first ones of their keys are kept, and the requirement is conflicted. -/
theorem sample_restrictions_win :
    (reconcile TextTables.ascii sampleRules).map Reconciled.directive =
        firsts TextTables.ascii sampleRules ∧
      (reconcile TextTables.ascii sampleRules).map (fun r => (r.status, r.directive.text)) =
        [(.conflicted, "Logo"), (.active, "Logo")] :=
  ⟨(restrictions_win TextTables.ascii sampleRules sampleRules_ranked).1, sampleRules_decided⟩

/-- A requirement is conflicted in one order of the rules and not in the other: of two duplicates
under different categories the first is kept. -/
theorem order_decides_conflict :
    (∀ d ∈ sampleRules, Ranked d) ∧ sampleRules.Perm sampleSwapped ∧
      conflictedTexts TextTables.ascii sampleRules ≠
        conflictedTexts TextTables.ascii sampleSwapped := by
  refine ⟨sampleRules_ranked, .swap _ _ _, fun same => ?_⟩
  have second : (reconcile TextTables.ascii sampleSwapped).map Reconciled.status =
      [.active, .active] := by decide +kernel
  have listed : (DirectiveStatus.conflicted, "Logo") ∈
      (reconcile TextTables.ascii sampleRules).map (fun r => (r.status, r.directive.text)) :=
    sampleRules_decided ▸ List.mem_cons_self
  obtain ⟨r, inside, shown⟩ := List.mem_map.mp listed
  obtain ⟨conflicted, text⟩ := Prod.mk.inj shown
  have there : "Logo" ∈ conflictedTexts TextTables.ascii sampleSwapped :=
    same ▸ ⟨r, inside, conflicted, text⟩
  obtain ⟨r', insideToo, conflictedToo, -⟩ := there
  have statuses : r'.status ∈ [DirectiveStatus.active, .active] :=
    second ▸ List.mem_map_of_mem insideToo
  rw [conflictedToo] at statuses
  simp at statuses

end MarketingOS.Intelligence
