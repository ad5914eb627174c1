import Mathlib.Data.List.Nodup
import Mathlib.Data.List.Perm.Subperm
import Mathlib.Data.List.DropRight
import MarketingOS.Base.Digits
import MarketingOS.Base.Pattern

/-!
# Slug helpers

The slug of a name, and the first of its numbered variants that is not taken.
-/
namespace MarketingOS

/-- A character a slug keeps: `[a-z0-9]`. -/
def isSlugChar (c : Char) : Bool := ('a' ≤ c && c ≤ 'z') || c.isDigit

/-- `_NON_SLUG` -/
def nonSlug : Pattern := .many (fun c => !isSlugChar c) 1 none true

/-- `slugify` -/
def slugify (lower : String → String) (text fallback : String) : String :=
  let dashed := (Pattern.sub (fun _ => false) nonSlug "-" (lower text)).toList
  let slug := String.ofList ((dashed.dropWhile (· = '-')).rdropWhile (· = '-'))
  if slug = "" then fallback else slug

/-- The candidates of the loop of `unique_slug`: `base`, `base-2`, `base-3`, … -/
def slugCandidate (base : String) : Nat → String
  | 0 => base
  | n + 1 => base ++ "-" ++ toString (n + 2)

/-- `unique_slug` — the first candidate that no row has. There is one among as many as there are
slugs and one more. -/
def uniqueSlug (taken : List String) (base : String) : String :=
  (((List.range (taken.length + 1)).map (slugCandidate base)).find? fun candidate =>
    !taken.contains candidate).getD base

/-- No two candidates are the same. -/
theorem slugCandidate_injective (base : String) : Function.Injective (slugCandidate base) := by
  have longer (n : Nat) : base ≠ slugCandidate base (n + 1) := by
    intro same
    have lengths := congrArg String.length same
    simp only [slugCandidate, String.length_append] at lengths
    have dash : "-".length = 1 := rfl
    omega
  intro left right same
  cases left with
  | zero =>
    cases right with
    | zero => rfl
    | succ right => exact absurd same (longer right)
  | succ left =>
    cases right with
    | zero => exact absurd same.symm (longer left)
    | succ right =>
      have digits := (String.append_right_inj _).mp same
      have numbers : left + 2 = right + 2 := Digits.toString_injective digits
      omega

/-- The slug found is not taken. -/
theorem uniqueSlug_not_mem (taken : List String) (base : String) : uniqueSlug taken base ∉ taken := by
  unfold uniqueSlug
  cases found : ((List.range (taken.length + 1)).map (slugCandidate base)).find? fun candidate =>
      !taken.contains candidate with
  | some slug =>
    have free := List.find?_some found
    simpa using free
  | none =>
    -- more candidates than slugs, each of them taken
    have every : (List.range (taken.length + 1)).map (slugCandidate base) ⊆ taken := by
      intro candidate inside
      have used := List.find?_eq_none.mp found candidate inside
      simpa using used
    have distinct := List.nodup_range (n := taken.length + 1) |>.map (slugCandidate_injective base)
    have fewer := (List.subperm_of_subset distinct every).length_le
    rw [List.length_map, List.length_range] at fewer
    exact absurd fewer (Nat.not_succ_le_self _)

end MarketingOS
