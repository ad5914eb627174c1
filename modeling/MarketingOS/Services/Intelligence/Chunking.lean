import MarketingOS.Services.Intelligence.Ingestion

/-!
# Chunking service

Overlapping windows over the characters of a text, each cut back to a paragraph, line, sentence or
word boundary in its second half when there is one.
-/
namespace MarketingOS.Intelligence

/-- `text[start:stop]` -/
def slice (text : List Char) (start stop : Nat) : List Char := (text.take stop).drop start

/-- `window.rfind(sep)` — nothing for -1. -/
def rfind (sep window : List Char) : Option Nat :=
  (List.range (window.length + 1)).reverse.find? fun idx => sep.isPrefixOf (window.drop idx)

/-- The separators of `_soft_break`, strongest first. -/
def softBreaks : List (List Char) := [['\n', '\n'], ['\n'], ['.', ' '], [' ']]

/-- `ChunkingService` -/
structure ChunkingService where
  size : Nat
  overlap : Nat

namespace ChunkingService

variable (s : ChunkingService)

/-- `_soft_break` -/
def softBreak (text : List Char) (start stop : Nat) : Nat :=
  let window := slice text start stop
  (softBreaks.findSome? fun sep =>
    (rfind sep window).bind fun idx =>
      if s.size / 2 < idx then some (start + idx + sep.length) else none).getD stop

/-- The end of the window that starts at a position. -/
def windowEnd (text : List Char) (start : Nat) : Nat :=
  let stop := min (start + s.size) text.length
  if stop < text.length then s.softBreak text start stop else stop

/-- The loop of `chunk`. -/
def chunkFrom (text : List Char) (start ordinal : Nat) : List Chunk :=
  if start < text.length then
    let stop := s.windowEnd text start
    let piece := stripChars (slice text start stop)
    let next := if piece = [] then ordinal else ordinal + 1
    let rest :=
      if text.length ≤ stop then []
      else chunkFrom text (max (stop - s.overlap) (start + 1)) next
    if piece = [] then rest else ⟨ordinal, String.ofList piece⟩ :: rest
  else []
termination_by text.length - start

/-- `chunk` -/
def chunk (text : String) : List Chunk :=
  let text := stripChars text.toList
  if text = [] then []
  else if text.length ≤ s.size then [⟨0, String.ofList text⟩]
  else s.chunkFrom text 0 0

end ChunkingService

end MarketingOS.Intelligence
