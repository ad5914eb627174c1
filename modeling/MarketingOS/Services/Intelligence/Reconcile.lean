import Mathlib.Data.Finset.Card
import MarketingOS.Base.StableSort
import MarketingOS.Services.Intelligence.Directives

/-!
# Reconciliation of directives

Duplicates are dropped, a mandatory prohibition marks the weaker directives it opposes as
conflicted, and the capability flags of the directives that stay active are folded into one set.
-/
namespace MarketingOS.Intelligence

/-- `Reconciled`. -/
structure Reconciled where
  directive : Directive
  status : DirectiveStatus
  conflictsWithIndex : Option Nat
deriving DecidableEq

/-- The identity of a directive: its type and its text, stripped and in lower case. -/
abbrev DirectiveKey : Type := DirectiveType × String

/-- `_directive_key` -/
def directiveKey (tables : TextTables) (type : DirectiveType) (text : String) : DirectiveKey :=
  (type, tables.lower (strip text))

/-- `_directive_key(d.type, d.text)` -/
def Directive.key (tables : TextTables) (d : Directive) : DirectiveKey :=
  directiveKey tables d.type d.text

/-- A character of `[a-z0-9]`. -/
def tokenChar (c : Char) : Bool := ('a' ≤ c && c ≤ 'z') || ('0' ≤ c && c ≤ '9')

/-- `_tokens` — the maximal runs of `[a-z0-9]` in the lowered text. -/
def tokens (tables : TextTables) (text : String) : Finset (List Char) :=
  (((tables.lower text).toList.splitOnP fun c => !tokenChar c).filter fun token =>
    token ≠ []).toFinset

/-- `_jaccard(a, b) >= _OVERLAP_THRESHOLD` -/
def overlaps (a b : Finset (List Char)) : Bool :=
  a ≠ ∅ ∧ b ≠ ∅ ∧ (a ∪ b).card ≤ 2 * (a ∩ b).card

/-- A prohibition opposes a requirement or a preference of its category that says much the same. -/
def opposes (tables : TextTables) (a b : Directive) : Bool :=
  a.type = .mustNot ∧ b.category = a.category ∧ (b.type = .must ∨ b.type = .prefer) ∧
    overlaps (tokens tables a.text) (tokens tables b.text)

/-- The first directive of every key. -/
def dedupe (tables : TextTables) : List DirectiveKey → List Directive → List Directive
  | _, [] => []
  | seen, d :: rest =>
    if d.key tables ∈ seen then dedupe tables seen rest
    else d :: dedupe tables (d.key tables :: seen) rest

/-- The rank of the directive at a position. -/
def rankAt (unique : List Directive) (i : Nat) : Int := (unique[i]?.map Directive.rank).getD 0

/-- The positions of directives by rank, lowest first. -/
def rankOrder (unique : List Directive) : List Nat :=
  StableSort.sortBy (rankAt unique) (List.range unique.length)

/-- Mark one directive as conflicting with a prohibition. -/
def markOne (tables : TextTables) (unique : List Directive) (i : Nat) (result : List Reconciled)
    (j : Nat) : List Reconciled :=
  match unique[i]?, unique[j]?, result[j]? with
  | some a, some b, some r =>
    if r.status = .active ∧ opposes tables a b then
      result.set j { r with
        status := .conflicted
        conflictsWithIndex := some i }
    else result
  | _, _, _ => result

/-- Mark what every prohibition opposes, in rank order; the first to oppose a directive marks
it. -/
def markAll (tables : TextTables) (unique : List Directive) : List Nat → List Reconciled →
    List Reconciled
  | [], result => result
  | i :: later, result =>
    markAll tables unique later
      (if unique[i]?.map Directive.type = some .mustNot then
        later.foldl (markOne tables unique i) result
      else result)

/-- `reconcile` -/
def reconcile (tables : TextTables) (directives : List Directive) : List Reconciled :=
  let unique := dedupe tables [] directives
  markAll tables unique (rankOrder unique) (unique.map fun d => ⟨d, .active, none⟩)

/-! ## Capability flags -/

/-- The value of a flag after one more directive sets it: a single `False` disables it. -/
def mergeValue (old : Option Json) (value : Json) : Json :=
  match value, old with
  | .bool b, some (.bool a) => .bool (a && b)
  | _, _ => value

/-- Fold the flags of one directive into the flags so far. -/
def foldFlags (flags added : Flags) : Flags := Dict.merge mergeValue flags added

/-- `merge_capability_flags` -/
def mergeCapabilityFlags (reconciled : List Reconciled) : Flags :=
  ((reconciled.filter fun r => r.status = .active).map fun r =>
    r.directive.capabilityFlags).foldl foldFlags .empty

/-! ## Review gate -/

/-- `_needs_review` — a hard rule by type, or one that sets a capability flag. -/
def needsReview (type : DirectiveType) (flags : Flags) : Bool :=
  type = .must ∨ type = .mustNot ∨ flags.entries ≠ []

/-- `_gate_new_restrictions`, given the approved keys. -/
def gateNewRestrictions (tables : TextTables) (approved : List DirectiveKey)
    (reconciled : List Reconciled) : List Reconciled :=
  reconciled.map fun r =>
    if r.status = .active ∧ needsReview r.directive.type r.directive.capabilityFlags ∧
        r.directive.key tables ∉ approved then
      { r with status := .pendingReview }
    else r

end MarketingOS.Intelligence
