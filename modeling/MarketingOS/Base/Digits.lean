import Mathlib.Algebra.Group.Nat.Defs

/-!
# Fixed-width digits

Numbers written in a fixed number of digits of a base up to sixteen, most significant digit
first, and read back. A number that fits its width is read back as itself.
-/
namespace MarketingOS.Digits

/-- The value of one digit character; both letter cases of the letters are read. -/
def digitValue (c : Char) : Option Nat :=
  if '0' ≤ c ∧ c ≤ '9' then some (c.toNat - '0'.toNat)
  else if 'a' ≤ c ∧ c ≤ 'f' then some (c.toNat - 'a'.toNat + 10)
  else if 'A' ≤ c ∧ c ≤ 'F' then some (c.toNat - 'A'.toNat + 10)
  else none

/-- The value of one digit character below a base. -/
def digitBelow (base : Nat) (c : Char) : Option Nat :=
  (digitValue c).bind fun value => if value < base then some value else none

/-- The last `width` digits of a number, most significant first. -/
def write (base : Nat) : (width : Nat) → (n : Nat) → List Char
  | 0, _ => []
  | width + 1, n => write base width (n / base) ++ [Nat.digitChar (n % base)]

/-- The number a list of digits denotes; nothing when one of them is not a digit of the base. -/
def read (base : Nat) (digits : List Char) : Option Nat :=
  digits.foldlM (fun high c => (digitBelow base c).map (high * base + ·)) 0

/-- A written digit is read back. -/
theorem digitBelow_digitChar {base d : Nat} (small : d < base) (hex : base ≤ 16) :
    digitBelow base (Nat.digitChar d) = some d := by
  have all : ∀ d < 16, digitValue (Nat.digitChar d) = some d := by decide
  simp [digitBelow, all d (by omega), small]

/-- Exactly the requested number of digits is written. -/
@[simp] theorem length_write (base width n : Nat) : (write base width n).length = width := by
  induction width generalizing n with
  | zero => rfl
  | succ width ih => simp [write, ih]

/-- A number that fits its width is read back. -/
theorem read_write {base : Nat} (positive : 0 < base) (hex : base ≤ 16) (width n : Nat)
    (fits : n < base ^ width) : read base (write base width n) = some n := by
  induction width generalizing n with
  | zero =>
    have zero : n = 0 := by simpa using fits
    simp [read, write, zero]
  | succ width ih =>
    have high : n / base < base ^ width := by
      apply (Nat.div_lt_iff_lt_mul positive).2
      rwa [Nat.pow_succ] at fits
    have low : n % base < base := Nat.mod_lt _ positive
    have front := ih (n / base) high
    simp only [read] at front
    simp only [read, write, List.foldlM_append, front, List.foldlM_cons, List.foldlM_nil,
      digitBelow_digitChar low hex, Option.bind_eq_bind, Option.bind_some, Option.map_some,
      Option.pure_def, Option.some.injEq]
    exact Nat.div_add_mod' n base

/-- Every written character is a digit character. -/
theorem digitValue_of_mem_write {base : Nat} (positive : 0 < base) (hex : base ≤ 16)
    {width n : Nat} {c : Char} (inside : c ∈ write base width n) : (digitValue c).isSome := by
  induction width generalizing n with
  | zero => simp [write] at inside
  | succ width ih =>
    simp only [write, List.mem_append, List.mem_singleton] at inside
    rcases inside with front | rfl
    · exact ih front
    · have low : n % base < base := Nat.mod_lt _ positive
      have all : ∀ d < 16, (digitValue (Nat.digitChar d)).isSome := by decide
      exact all _ (by omega)

/-- Numbers that fit their width are written differently. -/
theorem write_injective {base : Nat} (positive : 0 < base) (hex : base ≤ 16) {width m n : Nat}
    (left : m < base ^ width) (right : n < base ^ width)
    (same : write base width m = write base width n) : m = n := by
  have readBack := congrArg (read base) same
  rw [read_write positive hex width m left, read_write positive hex width n right] at readBack
  exact Option.some.inj readBack

/-- Different numbers are written differently in decimal. -/
theorem toString_injective : Function.Injective (fun n : Nat => toString n) := by
  intro left right same
  have digits := congrArg String.toList same
  simp only [Nat.toString_eq_repr, Nat.toList_repr] at digits
  have read := congrArg (Nat.ofDigitChars 10 · 0) digits
  simp only [Nat.ofDigitChars_ten_toDigits] at read
  exact read

end MarketingOS.Digits
