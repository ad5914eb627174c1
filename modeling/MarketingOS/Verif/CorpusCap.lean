import MarketingOS.Services.Intelligence.Extraction

/-!
# The corpus and its cap

What `_assemble_corpus` returns: the labelled blocks of the sources that have a text, fields first,
up to the one that uses up the cap. The cap is used up by the blocks alone, and the blank lines
between them are added on top.
-/
namespace MarketingOS.Intelligence

/-! ## Blocks -/

/-- The labelled block of a source. -/
def labelledBlock (src : KnowledgeSource) : String :=
  "## " ++ src.label ++ "\n" ++ strip (src.extractedText.getD "")

/-- Whether a source has a text besides blanks. -/
def hasText (src : KnowledgeSource) : Bool := strip (src.extractedText.getD "") ≠ ""

/-- The labelled blocks of the sources that have a text: the onboarding fields before the others,
and otherwise in the order of the sources. -/
def labelledBlocks (synced : List SyncedSource) : List String :=
  let sources := (synced.map SyncedSource.source).filter hasText
  ((sources.filter fun src => src.refKind = some "field") ++
    sources.filter fun src => src.refKind ≠ some "field").map labelledBlock

/-- Blocks with a blank line between them. -/
def joinBlocks (blocks : List String) : String := "\n\n".intercalate blocks

/-- The characters of blocks with a blank line between them. -/
def neededChars : List String → Nat
  | [] => 0
  | [block] => block.length
  | block :: next :: rest => block.length + 2 + neededChars (next :: rest)

/-- The length of joined blocks. -/
theorem length_joinBlocks (blocks : List String) :
    (joinBlocks blocks).length = neededChars blocks := by
  unfold joinBlocks
  induction blocks with
  | nil => rw [String.intercalate_nil]; rfl
  | cons block rest ih =>
    cases rest with
    | nil => rw [String.intercalate_singleton]; rfl
    | cons next more =>
      rw [String.intercalate_cons_cons, String.length_append, String.length_append, ih]
      rfl

/-- A block in front of others. -/
theorem neededChars_cons {blocks : List String} (block : String) (some : blocks ≠ []) :
    neededChars (block :: blocks) = block.length + 2 + neededChars blocks := by
  cases blocks with
  | nil => exact absurd rfl some
  | cons next rest => rfl

/-! ## The budget -/

/-- The blocks up to the first that fills the room, that one cut to it. -/
def fillBlocks : Nat → List String → List String
  | _, [] => []
  | room, block :: rest =>
    if room ≤ block.length then [clip room block]
    else block :: fillBlocks (room - block.length) rest

/-- Where there is a block, one is shown. -/
theorem fillBlocks_ne_nil {blocks : List String} (room : Nat) (some : blocks ≠ []) :
    fillBlocks room blocks ≠ [] := by
  cases blocks with
  | nil => exact absurd rfl some
  | cons block rest =>
    rw [fillBlocks]
    split <;> exact List.cons_ne_nil _ _

/-- Blocks that fit with their separators are all shown. -/
theorem fillBlocks_of_fits {blocks : List String} {room : Nat}
    (fits : neededChars blocks ≤ room) : fillBlocks room blocks = blocks := by
  induction blocks generalizing room with
  | nil => rfl
  | cons block rest ih =>
    rw [fillBlocks]
    cases rest with
    | nil =>
      split
      · rw [clip_of_fits fits]
      · rfl
    | cons next more =>
      have needed : block.length + 2 + neededChars (next :: more) ≤ room := fits
      rw [if_neg (by omega), ih (by omega)]

/-- Either every block is shown, or the shown ones use up the room without their separators. -/
theorem fillBlocks_cases (room : Nat) (blocks : List String) :
    fillBlocks room blocks = blocks ∨
      ∃ before block after limit, blocks = before ++ block :: after ∧
        fillBlocks room blocks = before ++ [clip limit block] ∧
        neededChars (fillBlocks room blocks) = room + 2 * before.length := by
  induction blocks generalizing room with
  | nil => exact .inl rfl
  | cons block rest ih =>
    rw [fillBlocks]
    split
    · rename_i full
      refine .inr ⟨[], block, rest, room, rfl, rfl, ?_⟩
      show (clip room block).length = room
      rw [length_clip, min_eq_left full]
    · rename_i roomy
      rcases ih (room - block.length) with
        whole | ⟨before, last, after, limit, split, shown, used⟩
      · exact .inl (by rw [whole])
      · refine .inr ⟨block :: before, last, after, limit, by rw [split]; rfl,
          by rw [shown]; rfl, ?_⟩
        have some : rest ≠ [] := by simp [split]
        rw [neededChars_cons block (fillBlocks_ne_nil _ some), used, List.length_cons]
        omega

/-! ## The loop -/

/-- One turn of the loop at a source with a text. -/
theorem corpusBlocks_cons {cap total : Nat} {src : KnowledgeSource} (rest : List KnowledgeSource)
    (text : strip (src.extractedText.getD "") ≠ "") {block : String}
    (cut : block = if cap < total + (labelledBlock src).length then
      clip (cap - total) (labelledBlock src) else labelledBlock src) :
    corpusBlocks cap total (src :: rest) =
      if cap ≤ total + block.length then [block]
      else block :: corpusBlocks cap (total + block.length) rest := by
  subst cut
  rw [corpusBlocks]
  exact if_neg text

/-- The loop fills what is left of the cap with the blocks of the sources that have a text. -/
theorem corpusBlocks_eq {cap total : Nat} (sources : List KnowledgeSource) (room : total ≤ cap) :
    corpusBlocks cap total sources =
      fillBlocks (cap - total) ((sources.filter hasText).map labelledBlock) := by
  induction sources generalizing total with
  | nil => rfl
  | cons src rest ih =>
    by_cases blank : strip (src.extractedText.getD "") = ""
    · rw [corpusBlocks, List.filter_cons_of_neg (by simp [hasText, blank]), ← ih room]
      exact if_pos blank
    · rw [corpusBlocks_cons rest blank rfl, List.filter_cons_of_pos (by simp [hasText, blank]),
        List.map_cons, fillBlocks]
      by_cases exceeds : cap < total + (labelledBlock src).length
      · have full : cap - total ≤ (labelledBlock src).length := by omega
        rw [if_pos exceeds, length_clip, min_eq_left full, if_pos (by omega), if_pos full]
      · rw [if_neg exceeds]
        by_cases full : cap ≤ total + (labelledBlock src).length
        · rw [if_pos full, if_pos (by omega), clip_of_fits (by omega)]
        · rw [if_neg full, if_neg (by omega), ih (by omega), Nat.sub_add_eq]

/-- The sources in the order of the corpus. -/
theorem sortBy_corpusPriority (sources : List KnowledgeSource) :
    StableSort.sortBy corpusPriority sources =
      (sources.filter fun src => src.refKind = some "field") ++
        sources.filter fun src => src.refKind ≠ some "field" := by
  have lows : ∀ src : KnowledgeSource, decide (src.refKind = some "field") = true →
      corpusPriority src = 0 := by
    intro src kind
    rw [corpusPriority, of_decide_eq_true kind]
    rfl
  have highs : ∀ src : KnowledgeSource, decide (src.refKind = some "field") = false →
      corpusPriority src = 1 := by
    intro src other
    refine if_neg fun same => of_decide_eq_false other ?_
    cases kind : src.refKind with
    | none => simp [orText, kind] at same
    | some text =>
      by_cases empty : text = ""
      · simp [orText, kind, empty] at same
      · simpa [orText, kind, empty] using same
  rw [StableSort.sortBy_two _ lows highs Nat.zero_lt_one]
  refine congrArg _ (List.filter_congr fun src _ => ?_)
  rw [decide_not]

/-- The corpus is what fits of the labelled blocks, joined. -/
theorem assembleCorpus_eq (cap : Nat) (synced : List SyncedSource) :
    assembleCorpus cap synced = joinBlocks (fillBlocks cap (labelledBlocks synced)) := by
  unfold assembleCorpus labelledBlocks
  rw [corpusBlocks_eq _ (Nat.zero_le cap), sortBy_corpusPriority, List.filter_append,
    List.filter_comm hasText, List.filter_comm hasText]
  rfl

/-! ## What is asked of a corpus -/

/-- A corpus is made of labelled blocks in their order: of all of them, or of the first ones with
the last of these cut short, which fill the cap. -/
def MadeOf (cap : Nat) (blocks : List String) (corpus : String) : Prop :=
  corpus = joinBlocks blocks ∨
    ∃ before block after limit, blocks = before ++ block :: after ∧
      corpus = joinBlocks (before ++ [clip limit block]) ∧ cap ≤ corpus.length

/-- A corpus that never exceeds its cap. -/
structure WellAssembled (cap : Nat) (blocks : List String) (corpus : String) : Prop where
  bounded : corpus.length ≤ cap
  made : MadeOf cap blocks corpus

/-- A corpus is made of the labelled blocks, whatever their lengths. -/
theorem assembleCorpus_made (cap : Nat) (synced : List SyncedSource) :
    MadeOf cap (labelledBlocks synced) (assembleCorpus cap synced) := by
  rw [assembleCorpus_eq]
  rcases fillBlocks_cases cap (labelledBlocks synced) with
    whole | ⟨before, block, after, limit, split, shown, used⟩
  · exact .inl (congrArg joinBlocks whole)
  · refine .inr ⟨before, block, after, limit, split, congrArg joinBlocks shown, ?_⟩
    rw [length_joinBlocks, used]
    exact Nat.le_add_right _ _

/-- A corpus is within its cap exactly when its blocks are with the blank lines between them, or
the first of them fills the cap alone. -/
theorem assembleCorpus_well (cap : Nat) (synced : List SyncedSource) :
    WellAssembled cap (labelledBlocks synced) (assembleCorpus cap synced) ↔
      neededChars (labelledBlocks synced) ≤ cap ∨
        ∃ first ∈ (labelledBlocks synced).head?, cap ≤ first.length := by
  constructor
  · intro well
    have bounded := well.bounded
    rw [assembleCorpus_eq, length_joinBlocks] at bounded
    rcases fillBlocks_cases cap (labelledBlocks synced) with
      whole | ⟨before, block, after, limit, split, shown, used⟩
    · exact .inl (by rwa [whole] at bounded)
    · have first : before = [] := List.eq_nil_of_length_eq_zero (by omega)
      subst first
      rw [shown] at used
      refine .inr ⟨block, by rw [split]; rfl, ?_⟩
      have cut : (clip limit block).length = cap := used
      rw [length_clip] at cut
      omega
  · intro condition
    refine ⟨?_, assembleCorpus_made cap synced⟩
    rw [assembleCorpus_eq, length_joinBlocks]
    rcases condition with fits | ⟨first, head, full⟩
    · rwa [fillBlocks_of_fits fits]
    · obtain ⟨rest, blocks⟩ := List.head?_eq_some_iff.mp head
      rw [blocks, fillBlocks, if_pos full]
      show (clip cap first).length ≤ cap
      rw [length_clip]
      exact Nat.min_le_left _ _

/-- A source with a short text. -/
def shortSource (id : Nat) : SyncedSource where
  source := ⟨id, 1, .document, some "document", some id, none, "a", none, some "b", 1, .extracted,
    []⟩
  needsRechunk := false

/-- Two blocks that use up the cap make a corpus that is two characters too long. -/
theorem corpus_over_cap :
    ¬ WellAssembled 12 (labelledBlocks [shortSource 1, shortSource 2])
      (assembleCorpus 12 [shortSource 1, shortSource 2]) := by
  rintro ⟨bounded, -⟩
  exact absurd bounded (by decide +kernel)

end MarketingOS.Intelligence
