import MarketingOS.Base.Regex

/-!
# Patterns with groups

Backtracking matches of an expression with capture groups: what `re` finds in a text, match after
match, and what the groups of each match hold. A repetition is of one class of characters, takes as
many or as few as it can, and the ends of a match are listed in the order they are tried.
-/
namespace MarketingOS

/-- An expression whose parts may be captured. -/
inductive Pattern where
  /-- One character of a class. -/
  | one (within : Char → Bool)
  /-- Characters of a class, at least and at most so many, greedily or not. -/
  | many (within : Char → Bool) (least : Nat) (most : Option Nat) (greedy : Bool)
  /-- A word boundary. -/
  | boundary
  /-- The end of the text or the line break before it. -/
  | finish
  | seq (first second : Pattern)
  | alt (left right : Pattern)
  /-- A part whose text is kept under a number. -/
  | group (index : Nat) (part : Pattern)
  /-- The text of a group again, by a comparison of characters. -/
  | back (same : Char → Char → Bool) (index : Nat)

namespace Pattern

/-- A place in a text: the character before it, the text after it, and the groups so far. -/
structure Place where
  before : Option Char
  after : List Char
  groups : List (Nat × List Char)

/-- The places after up to a number of characters of a class, the nearest first. -/
def advances (within : Char → Bool) : Nat → Place → List Place
  | 0, place => [place]
  | n + 1, place =>
    place :: match place.after with
      | [] => []
      | c :: rest =>
        if within c then advances within n ⟨some c, rest, place.groups⟩ else []

/-- The place after a given text. -/
def reads (same : Char → Char → Bool) : List Char → Place → Option Place
  | [], place => some place
  | c :: text, place =>
    match place.after with
    | [] => none
    | d :: rest => if same c d then reads same text ⟨some d, rest, place.groups⟩ else none

/-- The text between a place and a later one. -/
def taken (start stop : List Char) : List Char := start.take (start.length - stop.length)

/-- The places a match from a place can end at, in the order they are tried. -/
def ends (isWord : Char → Bool) : Pattern → Place → List Place
  | one within, place =>
    match place.after with
    | [] => []
    | c :: rest => if within c then [⟨some c, rest, place.groups⟩] else []
  | many within least most greedy, place =>
    let stops := (advances within (most.getD place.after.length) place).drop least
    if greedy then stops.reverse else stops
  | boundary, place =>
    if place.before.any isWord ≠ place.after.head?.any isWord then [place] else []
  | finish, place => if place.after = [] ∨ place.after = ['\n'] then [place] else []
  | seq first second, place => (ends isWord first place).flatMap (ends isWord second)
  | alt left right, place => ends isWord left place ++ ends isWord right place
  | group index part, place =>
    (ends isWord part place).map fun stop =>
      { stop with groups := (index, taken place.after stop.after) :: stop.groups }
  | back same index, place =>
    match place.groups.lookup index with
    | none => []
    | some text => (reads same text place).toList

/-- A match: its text and its groups. -/
structure Found where
  text : List Char
  groups : List (Nat × List Char)

/-- `m.group(index)`, and an empty text for a group that took no part. -/
def Found.group (found : Found) (index : Nat) : String :=
  String.ofList ((found.groups.lookup index).getD [])

/-- A text cut into its matches and the characters between them. -/
def scan (isWord : Char → Bool) (pattern : Pattern) :
    Nat → Option Char → List Char → List (Char ⊕ Found)
  | 0, _, _ => []
  | fuel + 1, before, after =>
    let skip := match after with
      | [] => []
      | c :: rest => .inl c :: scan isWord pattern fuel (some c) rest
    match (ends isWord pattern ⟨before, after, []⟩).head? with
    | none => skip
    | some stop =>
      let found : Found := ⟨taken after stop.after, stop.groups⟩
      -- a match that takes nothing is stepped over
      if stop.after.length < after.length then
        .inr found :: scan isWord pattern fuel stop.before stop.after
      else .inr found :: skip

/-- `pattern.finditer(text)` -/
def finditer (isWord : Char → Bool) (pattern : Pattern) (text : String) : List Found :=
  (scan isWord pattern (text.toList.length + 1) none text.toList).filterMap Sum.getRight?

/-- `pattern.search(text)` -/
def search (isWord : Char → Bool) (pattern : Pattern) (text : String) : Option Found :=
  (finditer isWord pattern text).head?

/-- `pattern.findall(text)` for an expression without groups. -/
def findTexts (isWord : Char → Bool) (pattern : Pattern) (text : String) : List String :=
  (finditer isWord pattern text).map fun found => String.ofList found.text

/-- `pattern.findall(text)` for an expression with one group. -/
def findGroups (isWord : Char → Bool) (pattern : Pattern) (text : String) : List String :=
  (finditer isWord pattern text).map fun found => found.group 1

/-- `pattern.match(text)` -/
def matchStart (isWord : Char → Bool) (pattern : Pattern) (text : String) : Option Found :=
  (ends isWord pattern ⟨none, text.toList, []⟩).head?.map fun stop =>
    ⟨taken text.toList stop.after, stop.groups⟩

/-- `pattern.sub(replacement, text)`, for a replacement without escapes. -/
def sub (isWord : Char → Bool) (pattern : Pattern) (replacement text : String) : String :=
  String.ofList ((scan isWord pattern (text.toList.length + 1) none text.toList).flatMap fun
    | .inl c => [c]
    | .inr _ => replacement.toList)

/-! ## Building blocks -/

/-- Nothing. -/
def empty : Pattern := many (fun _ => false) 0 none true

/-- One part after another. -/
def inOrder : List Pattern → Pattern
  | [] => empty
  | part :: parts => seq part (inOrder parts)

/-- A text, in any case. -/
def word (text : String) : Pattern :=
  inOrder (text.toList.map fun c => one fun d => Regex.fold d = c)

/-- One of some characters. -/
def oneOf (chars : List Char) : Pattern := one fun c => chars.contains c

/-- At most one of some characters. -/
def optional (chars : List Char) : Pattern := many (fun c => chars.contains c) 0 (some 1) true

/-- As many characters as there are that are none of some. -/
def noneOf (chars : List Char) : Pattern := many (fun c => !chars.contains c) 0 none true

/-- The same, but at least one. -/
def someNotOf (chars : List Char) : Pattern := many (fun c => !chars.contains c) 1 none true

/-- As few characters as it takes. -/
def fewest : Pattern := many (fun _ => true) 0 none false

end Pattern

end MarketingOS
