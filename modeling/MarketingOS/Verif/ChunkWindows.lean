import MarketingOS.Services.Intelligence.Chunking

/-!
# Chunks cover the text

The windows a text is cut into overlap or touch, start further on each time and end with the text,
so every character lies in one. Stripping a window drops blanks only.
-/
namespace MarketingOS.Intelligence.ChunkingService

/-! ## Windows -/

variable {s : ChunkingService} {text : List Char}

/-- The length of a slice. -/
theorem length_slice (text : List Char) (start stop : Nat) :
    (slice text start stop).length = min stop text.length - start := by
  rw [slice, List.length_drop, List.length_take]

/-- What is found in a text lies in it. -/
theorem rfind_bound {sep window : List Char} {idx : Nat} (found : rfind sep window = some idx) :
    idx + sep.length ≤ window.length ∨ sep = [] := by
  have starts : sep.isPrefixOf (window.drop idx) = true := by
    have at' := List.find?_some found
    simpa only using at'
  have short := (List.isPrefixOf_iff_prefix.mp starts).length_le
  rw [List.length_drop] at short
  by_cases empty : sep = []
  · exact .inr empty
  · have positive := List.length_pos_iff.mpr empty
    exact .inl (by omega)

/-- The cut is after the first half of the window, and not after its end. -/
theorem softBreak_bounds {start stop : Nat} (ordered : start < stop) (inside : stop ≤ text.length) :
    start < s.softBreak text start stop ∧ s.softBreak text start stop ≤ stop := by
  have width := length_slice text start stop
  have shape : s.softBreak text start stop =
      (softBreaks.findSome? fun sep => (rfind sep (slice text start stop)).bind fun idx =>
        if s.size / 2 < idx then some (start + idx + sep.length) else none).getD stop := rfl
  rw [shape]
  cases cut : softBreaks.findSome? fun sep => (rfind sep (slice text start stop)).bind fun idx =>
      if s.size / 2 < idx then some (start + idx + sep.length) else none with
  | none => exact ⟨ordered, Nat.le_refl stop⟩
  | some position =>
    obtain ⟨sep, listed, found⟩ := List.exists_of_findSome?_eq_some cut
    obtain ⟨idx, at', chosen⟩ := Option.bind_eq_some_iff.mp found
    obtain ⟨far, same⟩ := Option.ite_none_right_eq_some.mp chosen
    have nonempty : sep ≠ [] := by
      rintro rfl
      simp [softBreaks] at listed
    have bound := (rfind_bound at').resolve_right nonempty
    have position' := Option.some.inj same
    simp only [Option.getD_some]
    omega

/-- A window is not empty, is at most as long as the size and ends within the text. -/
theorem windowEnd_bounds (positive : 0 < s.size) {start : Nat} (inside : start < text.length) :
    start < s.windowEnd text start ∧ s.windowEnd text start ≤ text.length ∧
      s.windowEnd text start ≤ start + s.size := by
  unfold windowEnd
  simp only
  split
  · next short =>
    have bounds := @softBreak_bounds s text start (min (start + s.size) text.length) (by omega)
      (by omega)
    omega
  · omega

variable (s text) in
/-- The windows from a position on. -/
def windowsFrom (start : Nat) : List (Nat × Nat) :=
  if start < text.length then
    (start, s.windowEnd text start) ::
      if text.length ≤ s.windowEnd text start then []
      else windowsFrom (max (s.windowEnd text start - s.overlap) (start + 1))
  else []
termination_by text.length - start

variable (s text) in
/-- The windows of a stripped text. -/
def windows : List (Nat × Nat) :=
  if text = [] then [] else if text.length ≤ s.size then [(0, text.length)] else s.windowsFrom text 0

/-- Windows from a position to the end of a text of a length, each starting after the one before it
starts and not after it ends. -/
inductive Covers (n : Nat) : Nat → List (Nat × Nat) → Prop where
  | last {start : Nat} (inside : start < n) : Covers n start [(start, n)]
  | step {start stop next : Nat} {rest : List (Nat × Nat)} (ordered : start < stop)
      (short : stop < n) (on : start < next) (joined : next ≤ stop) (later : Covers n next rest) :
      Covers n start ((start, stop) :: rest)

/-- The windows of a text cover it. -/
theorem covers_windowsFrom (positive : 0 < s.size) {start : Nat} (inside : start < text.length) :
    Covers text.length start (s.windowsFrom text start) := by
  induction start using windowsFrom.induct s text with
  | case1 start within ih =>
    have bounds := windowEnd_bounds positive within
    rw [windowsFrom, if_pos within]
    by_cases done : text.length ≤ s.windowEnd text start
    · have ends : s.windowEnd text start = text.length := by omega
      rw [if_pos done, ends]
      exact .last within
    · rw [if_neg done]
      exact .step bounds.1 (by omega) (by omega) (by omega) (ih (by omega))
  | case2 start outside => exact absurd inside outside

namespace Covers

variable {n start : Nat} {rest : List (Nat × Nat)}

/-- Every position is in a window. -/
theorem exists_window (covers : Covers n start rest) {p : Nat} (after : start ≤ p) (before : p < n) :
    ∃ w ∈ rest, w.1 ≤ p ∧ p < w.2 := by
  induction covers with
  | @last start inside => exact ⟨(start, n), List.mem_cons_self, after, before⟩
  | @step start stop next rest ordered short on joined later ih =>
    by_cases here : p < stop
    · exact ⟨(start, stop), List.mem_cons_self, after, here⟩
    · obtain ⟨w, inside, bounds⟩ := ih (by omega)
      exact ⟨w, List.mem_cons_of_mem _ inside, bounds⟩

/-- Every window is within the text, from the first position on. -/
theorem bounds (covers : Covers n start rest) : ∀ w ∈ rest, start ≤ w.1 ∧ w.1 < w.2 ∧ w.2 ≤ n := by
  induction covers with
  | last inside =>
    intro w only
    rw [List.mem_singleton.mp only]
    exact ⟨Nat.le_refl _, inside, Nat.le_refl n⟩
  | step ordered short on joined later ih =>
    intro w inside
    rcases List.mem_cons.mp inside with rfl | further
    · exact ⟨Nat.le_refl _, ordered, Nat.le_of_lt short⟩
    · have bounds := ih w further
      omega

/-- The windows start further on each time. -/
theorem increasing (covers : Covers n start rest) : rest.Pairwise fun w w' => w.1 < w'.1 := by
  induction covers with
  | last inside => exact List.pairwise_singleton _ _
  | step ordered short on joined later ih =>
    refine List.pairwise_cons.mpr ⟨fun w inside => ?_, ih⟩
    have bounds := later.bounds w inside
    simp only
    omega

end Covers

/-! ## Pieces -/

/-- The number of blanks a text begins with. -/
def blanks (text : List Char) : Nat := (text.takeWhile isSpace).length

/-- A text is what stripping leaves of it between blanks. -/
theorem split_strip (text : List Char) :
    text.takeWhile isSpace ++
      (stripChars text ++ (text.dropWhile isSpace).rtakeWhile isSpace) = text := by
  rw [stripChars, List.rdropWhile_append_rtakeWhile, List.takeWhile_append_dropWhile]

/-- Up to the blanks a text begins with, there is nothing else. -/
theorem isSpace_of_lt_blanks {p : Nat} {c : Char} (at' : text[p]? = some c)
    (front : p < blanks text) : isSpace c = true := by
  have listed : (text.takeWhile isSpace)[p]? = some c := by
    rw [← split_strip text, List.getElem?_append_left front] at at'
    exact at'
  exact List.mem_takeWhile_imp (List.mem_of_getElem? listed)

/-- After the blanks a text begins with, there is what stripping leaves, and blanks. -/
theorem getElem?_blanks_add (text : List Char) (k : Nat) :
    text[blanks text + k]? =
      (stripChars text ++ (text.dropWhile isSpace).rtakeWhile isSpace)[k]? := by
  calc text[blanks text + k]?
    _ = (text.takeWhile isSpace ++ (stripChars text ++
          (text.dropWhile isSpace).rtakeWhile isSpace))[blanks text + k]? := by rw [split_strip]
    _ = (stripChars text ++ (text.dropWhile isSpace).rtakeWhile isSpace)[k]? := by
        have shown : blanks text = (text.takeWhile isSpace).length := rfl
        rw [shown, List.getElem?_append_right (Nat.le_add_right _ _), Nat.add_sub_cancel_left]

/-- A character that is no blank stays. -/
theorem getElem?_strip {p : Nat} {c : Char} (at' : text[p]? = some c)
    (filled : isSpace c = false) :
    blanks text ≤ p ∧ (stripChars text)[p - blanks text]? = some c := by
  have after : blanks text ≤ p := by
    by_contra front
    rw [isSpace_of_lt_blanks at' (by omega)] at filled
    cases filled
  obtain ⟨k, rfl⟩ := Nat.exists_eq_add_of_le after
  rw [getElem?_blanks_add] at at'
  rw [Nat.add_sub_cancel_left]
  refine ⟨after, ?_⟩
  by_cases inside : k < (stripChars text).length
  · rw [List.getElem?_append_left inside] at at'
    exact at'
  · rw [List.getElem?_append_right (by omega)] at at'
    rw [List.mem_rtakeWhile_imp (List.mem_of_getElem? at')] at filled
    cases filled

/-- A stripped text that is not empty begins with no blank. -/
theorem filled_at_blanks (left : stripChars text ≠ []) :
    ∃ c, text[blanks text]? = some c ∧ isSpace c = false := by
  obtain ⟨c, rest, shape⟩ := List.exists_cons_of_ne_nil left
  have front := dropWhile_stripChars text
  have filled : isSpace c = false := by
    rw [← Bool.not_eq_true]
    intro blank
    rw [shape, List.dropWhile_cons_of_pos blank] at front
    have shorter := (List.dropWhile_sublist isSpace (l := rest)).length_le
    rw [front, List.length_cons] at shorter
    omega
  refine ⟨c, ?_, filled⟩
  have first := getElem?_blanks_add text 0
  rw [Nat.add_zero, shape] at first
  exact first

/-- The text of a window once it is stripped. -/
def piece (text : List Char) (w : Nat × Nat) : List Char := stripChars (slice text w.1 w.2)

/-- The position in the text at which that begins. -/
def place (text : List Char) (w : Nat × Nat) : Nat := w.1 + blanks (slice text w.1 w.2)

/-- A window holds the characters of the text from its start to its end. -/
theorem getElem?_slice (text : List Char) {w : Nat × Nat} {p : Nat} (after : w.1 ≤ p)
    (before : p < w.2) : (slice text w.1 w.2)[p - w.1]? = text[p]? := by
  rw [slice, List.getElem?_drop, List.getElem?_take_of_lt (by omega)]
  congr 1
  omega

/-- A character of a window that is no blank is in its piece. -/
theorem getElem?_piece {w : Nat × Nat} {p : Nat} {c : Char} (after : w.1 ≤ p) (before : p < w.2)
    (at' : text[p]? = some c) (filled : isSpace c = false) :
    place text w ≤ p ∧ (piece text w)[p - place text w]? = some c := by
  rw [← getElem?_slice text after before] at at'
  obtain ⟨later, stays⟩ := getElem?_strip at' filled
  refine ⟨by unfold place; omega, ?_⟩
  rw [piece, place, Nat.sub_add_eq]
  exact stays

/-- Pieces begin further on with their windows, or at the same place. -/
theorem place_mono {w w' : Nat × Nat} (on : w.1 < w'.1) (left : piece text w' ≠ []) :
    place text w ≤ place text w' := by
  obtain ⟨c, at', filled⟩ := filled_at_blanks left
  by_contra front
  rw [Nat.not_le] at front
  have before : blanks (slice text w'.1 w'.2) < w'.2 - w'.1 := by
    have long := (List.getElem?_eq_some_iff.mp at').1
    rw [length_slice] at long
    omega
  have offset : place text w' - w'.1 = blanks (slice text w'.1 w'.2) := by
    unfold place
    omega
  have there : text[place text w']? = some c := by
    rw [← getElem?_slice text (w := w') (by unfold place; omega) (by unfold place; omega), offset]
    exact at'
  have inside : place text w' < w.2 := by
    have short : blanks (slice text w.1 w.2) ≤ (slice text w.1 w.2).length :=
      (List.takeWhile_prefix isSpace).length_le
    rw [length_slice] at short
    unfold place at front ⊢
    omega
  have after : w.1 ≤ place text w' := by
    unfold place
    omega
  rw [← getElem?_slice text after inside] at there
  have blank := isSpace_of_lt_blanks there (by unfold place at front ⊢; omega)
  rw [blank] at filled
  cases filled

/-! ## Chunks -/

/-- Texts as chunks, numbered from a number on. -/
def number (ordinal : Nat) (pieces : List (List Char)) : List Chunk :=
  (pieces.zipIdx ordinal).map fun entry => ⟨entry.2, String.ofList entry.1⟩

/-- Numbering starts with the first text. -/
theorem number_cons (ordinal : Nat) (first : List Char) (rest : List (List Char)) :
    number ordinal (first :: rest) = ⟨ordinal, String.ofList first⟩ :: number (ordinal + 1) rest :=
  rfl

variable (text) in
/-- The pieces of the windows that are not blank. -/
def pieces (windows : List (Nat × Nat)) : List (List Char) :=
  (windows.map (piece text)).filter fun chars => chars ≠ []

/-- A blank window adds no piece. -/
theorem pieces_cons_blank {w : Nat × Nat} (rest : List (Nat × Nat)) (blank : piece text w = []) :
    pieces text (w :: rest) = pieces text rest := by
  simp [pieces, blank]

/-- Another window adds its piece. -/
theorem pieces_cons {w : Nat × Nat} (rest : List (Nat × Nat)) (filled : piece text w ≠ []) :
    pieces text (w :: rest) = piece text w :: pieces text rest := by
  rw [pieces, List.map_cons, List.filter_cons_of_pos (by simp [filled])]
  rfl

/-- The loop returns the pieces of its windows. -/
theorem chunkFrom_eq (start ordinal : Nat) :
    s.chunkFrom text start ordinal = number ordinal (pieces text (s.windowsFrom text start)) := by
  induction start using windowsFrom.induct s text generalizing ordinal with
  | case1 start within ih =>
    rw [chunkFrom, windowsFrom, if_pos within, if_pos within]
    have stripped : stripChars (slice text start (s.windowEnd text start)) =
        piece text (start, s.windowEnd text start) := rfl
    simp only [stripped]
    have rest (next : Nat) : (if text.length ≤ s.windowEnd text start then []
        else s.chunkFrom text (max (s.windowEnd text start - s.overlap) (start + 1)) next) =
          number next (pieces text (if text.length ≤ s.windowEnd text start then []
            else s.windowsFrom text (max (s.windowEnd text start - s.overlap) (start + 1)))) := by
      split
      · rfl
      · exact ih next
    by_cases blank : piece text (start, s.windowEnd text start) = []
    · rw [if_pos blank, if_pos blank, rest, pieces_cons_blank _ blank]
    · rw [if_neg blank, if_neg blank, rest, pieces_cons _ blank, number_cons]
  | case2 start outside =>
    rw [chunkFrom, windowsFrom, if_neg outside, if_neg outside]
    rfl

/-- The chunks of a text are the pieces of its windows. -/
theorem chunk_eq (s : ChunkingService) (text : String) :
    s.chunk text =
      number 0 (pieces (stripChars text.toList) (s.windows (stripChars text.toList))) := by
  unfold chunk windows
  by_cases blank : stripChars text.toList = []
  · simp only [blank, ↓reduceIte]
    rfl
  · simp only [blank, ↓reduceIte]
    split
    · have whole : piece (stripChars text.toList) (0, (stripChars text.toList).length) =
          stripChars text.toList := by
        have again := congrArg String.toList (strip_strip text)
        simp only [strip, String.toList_ofList] at again
        rw [piece, slice, List.take_length, List.drop_zero, again]
      rw [pieces_cons _ (whole.symm ▸ blank), whole]
      rfl
    · exact chunkFrom_eq 0 0

/-- The windows of a text that is not blank cover it. -/
theorem covers_windows (positive : 0 < s.size) (filled : text ≠ []) :
    Covers text.length 0 (s.windows text) := by
  have long := List.length_pos_iff.mpr filled
  unfold windows
  rw [if_neg filled]
  split
  · exact .last long
  · exact covers_windowsFrom positive long

/-- A window is at most as long as the size. -/
theorem windows_size (positive : 0 < s.size) : ∀ w ∈ s.windows text, w.2 ≤ w.1 + s.size := by
  have general (start : Nat) : ∀ w ∈ s.windowsFrom text start, w.2 ≤ w.1 + s.size := by
    induction start using windowsFrom.induct s text with
    | case1 start within ih =>
      rw [windowsFrom, if_pos within]
      intro w inside
      rcases List.mem_cons.mp inside with rfl | later
      · exact (windowEnd_bounds positive within).2.2
      · split at later
        · cases later
        · exact ih w later
    | case2 start outside =>
      rw [windowsFrom, if_neg outside]
      intro w inside
      cases inside
  unfold windows
  split
  · intro w inside
    cases inside
  · split
    · next short =>
      intro w only
      rw [List.mem_singleton.mp only]
      simpa using short
    · exact general 0

/-- Of windows that cover a text, each starts after the one before it and not after its end. -/
theorem Covers.isChain {n start : Nat} {rest : List (Nat × Nat)} (covers : Covers n start rest) :
    rest.IsChain fun w w' => w.1 < w'.1 ∧ w'.1 ≤ w.2 := by
  induction covers with
  | last inside => exact List.IsChain.singleton _
  | @step start stop next rest ordered short on joined later ih =>
    cases later with
    | last inside => exact List.isChain_cons_cons.mpr ⟨⟨on, joined⟩, ih⟩
    | step _ _ _ _ _ => exact List.isChain_cons_cons.mpr ⟨⟨on, joined⟩, ih⟩

/-- The numbers of numbered texts. -/
theorem ordinal_number (ordinal : Nat) (pieces : List (List Char)) :
    (number ordinal pieces).map Chunk.ordinal = List.range' ordinal pieces.length := by
  induction pieces generalizing ordinal with
  | nil => rfl
  | cons first rest ih => rw [number_cons, List.map_cons, ih, List.length_cons, List.range'_succ]

/-- The texts of numbered texts. -/
theorem text_number (ordinal : Nat) (pieces : List (List Char)) :
    (number ordinal pieces).map (fun chunk => chunk.text.toList) = pieces := by
  induction pieces generalizing ordinal with
  | nil => rfl
  | cons first rest ih =>
    rw [number_cons, List.map_cons, ih, String.toList_ofList]

/-- Stripping a stripped piece leaves it. -/
theorem strip_piece (w : Nat × Nat) : stripChars (piece text w) = piece text w := by
  have again := congrArg String.toList (strip_strip (String.ofList (slice text w.1 w.2)))
  simp only [strip, String.toList_ofList] at again
  exact again

/-- A piece is no longer than its window. -/
theorem length_piece (w : Nat × Nat) : (piece text w).length ≤ w.2 - w.1 := by
  have short := length_strip (String.ofList (slice text w.1 w.2))
  rw [strip, String.length_ofList, String.length_ofList, String.toList_ofList, length_slice] at short
  unfold piece
  omega

/-- What holds of the chunks of a text that lose nothing of it. -/
structure Lossless (s : ChunkingService) (text : String) : Prop where
  /-- A chunk is not empty, has no blank at its ends and is at most as long as the size. -/
  chunks : ∀ chunk ∈ s.chunk text,
    chunk.text ≠ "" ∧ strip chunk.text = chunk.text ∧ chunk.text.length ≤ s.size
  ordinals : (s.chunk text).map Chunk.ordinal = List.range (s.chunk text).length
  /-- The chunks are the pieces of the windows, in order. -/
  texts : (s.chunk text).map (fun chunk => chunk.text.toList) =
    ((s.windows (stripChars text.toList)).map (piece (stripChars text.toList))).filter
      fun chars => chars ≠ []
  /-- Each window starts after the one before it and not after its end. -/
  joined : (s.windows (stripChars text.toList)).IsChain fun w w' => w.1 < w'.1 ∧ w'.1 ≤ w.2
  /-- The windows cover the text. -/
  covered : ∀ p < (stripChars text.toList).length,
    ∃ w ∈ s.windows (stripChars text.toList), w.1 ≤ p ∧ p < w.2
  /-- Every character that is no blank is in the chunk of a window, at its place. -/
  kept : ∀ (p : Nat) (c : Char), (stripChars text.toList)[p]? = some c → isSpace c = false →
    ∃ w ∈ s.windows (stripChars text.toList), ∃ chunk ∈ s.chunk text,
      chunk.text.toList = piece (stripChars text.toList) w ∧
        place (stripChars text.toList) w ≤ p ∧
          chunk.text.toList[p - place (stripChars text.toList) w]? = some c
  /-- A later chunk begins at the place of an earlier one or after it. -/
  ordered : ((s.windows (stripChars text.toList)).filter fun w =>
      piece (stripChars text.toList) w ≠ []).Pairwise fun w w' =>
    place (stripChars text.toList) w ≤ place (stripChars text.toList) w'

/-- **Chunking loses nothing.** For every text, size and overlap. -/
theorem chunking_lossless (s : ChunkingService) (positive : 0 < s.size) (text : String) :
    s.Lossless text := by
  have texts : (s.chunk text).map (fun chunk => chunk.text.toList) =
      pieces (stripChars text.toList) (s.windows (stripChars text.toList)) := by
    rw [chunk_eq, text_number]
  have chunkOf {w : Nat × Nat} (inside : w ∈ s.windows (stripChars text.toList))
      (filled : piece (stripChars text.toList) w ≠ []) :
      ∃ chunk ∈ s.chunk text, chunk.text.toList = piece (stripChars text.toList) w := by
    have listed : piece (stripChars text.toList) w ∈
        (s.chunk text).map fun chunk => chunk.text.toList := by
      rw [texts, pieces]
      exact List.mem_filter.mpr ⟨List.mem_map_of_mem inside, by simp [filled]⟩
    exact List.mem_map.mp listed
  refine ⟨?_, ?_, texts, ?_, ?_, ?_, ?_⟩
  · intro chunk inside
    have listed : chunk.text.toList ∈ pieces (stripChars text.toList)
        (s.windows (stripChars text.toList)) := texts ▸ List.mem_map_of_mem inside
    obtain ⟨mapped, filled⟩ := List.mem_filter.mp listed
    obtain ⟨w, window, same⟩ := List.mem_map.mp mapped
    refine ⟨?_, ?_, ?_⟩
    · intro empty
      rw [empty] at filled
      simp at filled
    · rw [strip, ← same, strip_piece, same, String.ofList_toList]
    · have short := @length_piece (stripChars text.toList) w
      have size := windows_size positive w window
      rw [← String.length_toList, ← same]
      omega
  · rw [chunk_eq, ordinal_number, List.range_eq_range']
    congr 1
    rw [number, List.length_map, List.length_zipIdx]
  · by_cases blank : stripChars text.toList = []
    · simp [windows, blank]
    · exact (covers_windows positive blank).isChain
  · intro p before
    have filled : stripChars text.toList ≠ [] := by
      intro blank
      rw [blank] at before
      exact absurd before (Nat.not_lt_zero p)
    exact (covers_windows positive filled).exists_window (Nat.zero_le p) before
  · intro p c at' nonblank
    have filled : stripChars text.toList ≠ [] := by
      intro blank
      rw [blank] at at'
      cases at'
    have before := (List.getElem?_eq_some_iff.mp at').1
    obtain ⟨w, window, after, within⟩ :=
      (covers_windows positive filled).exists_window (Nat.zero_le p) before
    obtain ⟨later, stays⟩ := getElem?_piece after within at' nonblank
    have nonempty : piece (stripChars text.toList) w ≠ [] := by
      intro blank
      rw [blank] at stays
      cases stays
    obtain ⟨chunk, inside, same⟩ := chunkOf window nonempty
    exact ⟨w, window, chunk, inside, same, later, same ▸ stays⟩
  · by_cases blank : stripChars text.toList = []
    · simp [windows, blank]
    · have increasing := (covers_windows positive blank).increasing
      refine List.Pairwise.imp_of_mem ?_ (increasing.filter _)
      intro w w' _ inside on
      have filled := (List.mem_filter.mp inside).2
      exact place_mono on (of_decide_eq_true filled)

/-- A text of eight characters in chunks of five. -/
theorem sample_chunks :
    (ChunkingService.mk 5 1).Lossless "ab cd ef" ∧
      (ChunkingService.mk 5 1).chunk "ab cd ef" = [⟨0, "ab cd"⟩, ⟨1, "d ef"⟩] :=
  ⟨chunking_lossless ⟨5, 1⟩ (by decide) "ab cd ef", by decide +kernel⟩

end MarketingOS.Intelligence.ChunkingService
