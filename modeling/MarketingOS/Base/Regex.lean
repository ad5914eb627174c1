/-!
# Regular expressions

Backtracking search for the expressions the source compiles: characters of a class, repetitions of
a class, word boundaries, sequences, alternatives and optional parts. A position is the character
before it and the characters after it, so that a boundary can look both ways.
-/
namespace MarketingOS

/-- A regular expression. -/
inductive Regex where
  /-- One character of a class. -/
  | one (within : Char → Bool)
  /-- Characters of a class, as many as there are or up to a bound. -/
  | run (within : Char → Bool) (most : Option Nat)
  /-- A word boundary. -/
  | boundary
  | seq (first second : Regex)
  | alt (left right : Regex)
  | opt (part : Regex)

namespace Regex

/-- A place in a text: the character before it and the text after it. -/
abbrev Position : Type := Option Char × List Char

/-- The places after at most a number of characters of a class. -/
def runEnds (within : Char → Bool) : Nat → Position → List Position
  | 0, start => [start]
  | n + 1, (before, after) =>
    (before, after) :: match after with
      | [] => []
      | c :: rest => if within c then runEnds within n (some c, rest) else []

/-- The places a match from a place can end at. -/
def ends (isWord : Char → Bool) : Regex → Position → List Position
  | one within, (_, after) =>
    match after with
    | [] => []
    | c :: rest => if within c then [(some c, rest)] else []
  | run within most, start => runEnds within (most.getD start.2.length) start
  | boundary, (before, after) =>
    if before.any isWord ≠ after.head?.any isWord then [(before, after)] else []
  | seq first second, start => (ends isWord first start).flatMap (ends isWord second)
  | alt left right, start => ends isWord left start ++ ends isWord right start
  | opt part, start => start :: ends isWord part start

/-- Whether a match starts at a place or after it. -/
def searchFrom (isWord : Char → Bool) (pattern : Regex) : Option Char → List Char → Bool
  | before, [] => !(ends isWord pattern (before, [])).isEmpty
  | before, c :: rest =>
    !(ends isWord pattern (before, c :: rest)).isEmpty || searchFrom isWord pattern (some c) rest

/-- `pattern.search(text)` found a match. -/
def search (isWord : Char → Bool) (pattern : Regex) (text : String) : Bool :=
  searchFrom isWord pattern none text.toList

/-- A character without its case: the ASCII letters and the letters beyond them that stand for
`i`, `k` and `s` when case is ignored. -/
def fold (c : Char) : Char :=
  if c = 'İ' ∨ c = 'ı' then 'i' else if c = 'K' then 'k' else if c = 'ſ' then 's' else c.toLower

/-- A text in any case. -/
def word (text : String) : Regex :=
  match text.toList with
  | [] => run (fun _ => false) none
  | c :: rest => rest.foldl (fun pattern d => seq pattern (one fun e => fold e = d))
      (one fun e => fold e = c)

/-- One of some characters. -/
def oneOf (chars : String) : Regex := one fun c => fold c ∈ chars.toList

/-- One part after another. -/
def inOrder (first : Regex) (rest : List Regex) : Regex := rest.foldl seq first

/-- One of some parts. -/
def anyOf (first : Regex) (rest : List Regex) : Regex := rest.foldl alt first

end Regex

end MarketingOS
