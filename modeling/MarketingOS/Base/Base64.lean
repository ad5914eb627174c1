/-!
# Base64 with the URL alphabet

Bytes written as four characters for three of them, padded at the end, and read back the way a
lenient decoder does: characters outside the alphabet are passed over, and a pad sequence that
completes a group ends the text. What is written is read back.
-/
namespace MarketingOS.Base64

/-- The URL alphabet, in the order of the values. -/
def alphabet : List Char :=
  "ABCDEFGHIJKLMNOPQRSTUVWXYZabcdefghijklmnopqrstuvwxyz0123456789-_".toList

/-- The character of a six-bit value. -/
def letter (value : Nat) : Char := alphabet.getD value 'A'

/-- The six-bit value of a character, in the URL alphabet or in the standard one. -/
def value (c : Char) : Option Nat :=
  if c = '+' then some 62
  else if c = '/' then some 63
  else alphabet.idxOf? c

/-- Write bytes, three at a time. -/
def encode : List UInt8 → List Char
  | a :: b :: c :: rest =>
    letter (a.toNat / 4) :: letter (a.toNat % 4 * 16 + b.toNat / 16) ::
      letter (b.toNat % 16 * 4 + c.toNat / 64) :: letter (c.toNat % 64) :: encode rest
  | [a, b] =>
    [letter (a.toNat / 4), letter (a.toNat % 4 * 16 + b.toNat / 16), letter (b.toNat % 16 * 4), '=']
  | [a] => [letter (a.toNat / 4), letter (a.toNat % 4 * 16), '=', '=']
  | [] => []

/-- Where a decoder stands in a group: how many characters it has read, the bits left over from
them, and the pads seen since. -/
structure Place where
  quad : Nat
  left : Nat
  pads : Nat

/-- Before a group. -/
def Place.start : Place := ⟨0, 0, 0⟩

/-- Read the rest of a text from a place; nothing when it ends within a group. -/
def decodeFrom (place : Place) : List Char → Option (List UInt8)
  | [] => if place.quad = 0 then some [] else none
  | c :: rest =>
    if c = '=' then
      if 2 ≤ place.quad then
        if 4 ≤ place.quad + (place.pads + 1) then some []
        else decodeFrom { place with pads := place.pads + 1 } rest
      else decodeFrom place rest
    else match value c with
      | none => decodeFrom place rest
      | some bits =>
        match place.quad with
        | 0 => decodeFrom ⟨1, bits, 0⟩ rest
        | 1 => do
          let bytes ← decodeFrom ⟨2, bits % 16, 0⟩ rest
          some (UInt8.ofNat (place.left * 4 + bits / 16) :: bytes)
        | 2 => do
          let bytes ← decodeFrom ⟨3, bits % 4, 0⟩ rest
          some (UInt8.ofNat (place.left * 16 + bits / 4) :: bytes)
        | _ => do
          let bytes ← decodeFrom .start rest
          some (UInt8.ofNat (place.left * 64 + bits) :: bytes)

/-- Read a text. -/
def decode : List Char → Option (List UInt8) := decodeFrom .start

/-- A written character is no pad and has the value it was written for. -/
theorem value_letter {n : Nat} (small : n < 64) : letter n ≠ '=' ∧ value (letter n) = some n := by
  have all : ∀ n < 64, letter n ≠ '=' ∧ value (letter n) = some n := by decide +kernel
  exact all n small

/-- The first character of a group is read. -/
theorem decodeFrom_first {bits : Nat} (small : bits < 64) (rest : List Char) :
    decodeFrom .start (letter bits :: rest) = decodeFrom ⟨1, bits, 0⟩ rest := by
  obtain ⟨noPad, read⟩ := value_letter small
  simp only [decodeFrom, noPad, read, ↓reduceIte, Place.start]

/-- The second character of a group is read. -/
theorem decodeFrom_second {left bits : Nat} (small : bits < 64) (rest : List Char) :
    decodeFrom ⟨1, left, 0⟩ (letter bits :: rest) =
      (decodeFrom ⟨2, bits % 16, 0⟩ rest).map fun bytes =>
        UInt8.ofNat (left * 4 + bits / 16) :: bytes := by
  obtain ⟨noPad, read⟩ := value_letter small
  simp only [decodeFrom, noPad, read, ↓reduceIte]
  cases decodeFrom ⟨2, bits % 16, 0⟩ rest <;> rfl

/-- The third character of a group is read. -/
theorem decodeFrom_third {left bits : Nat} (small : bits < 64) (rest : List Char) :
    decodeFrom ⟨2, left, 0⟩ (letter bits :: rest) =
      (decodeFrom ⟨3, bits % 4, 0⟩ rest).map fun bytes =>
        UInt8.ofNat (left * 16 + bits / 4) :: bytes := by
  obtain ⟨noPad, read⟩ := value_letter small
  simp only [decodeFrom, noPad, read, ↓reduceIte]
  cases decodeFrom ⟨3, bits % 4, 0⟩ rest <;> rfl

/-- The last character of a group is read. -/
theorem decodeFrom_last {left bits : Nat} (small : bits < 64) (rest : List Char) :
    decodeFrom ⟨3, left, 0⟩ (letter bits :: rest) =
      (decodeFrom .start rest).map fun bytes => UInt8.ofNat (left * 64 + bits) :: bytes := by
  obtain ⟨noPad, read⟩ := value_letter small
  simp only [decodeFrom, noPad, read, ↓reduceIte]
  cases decodeFrom .start rest <;> rfl

/-- A pad completes a group of three characters. -/
theorem decodeFrom_pad (left : Nat) : decodeFrom ⟨3, left, 0⟩ ['='] = some [] := by
  simp [decodeFrom]

/-- Two pads complete a group of two characters. -/
theorem decodeFrom_pads (left : Nat) : decodeFrom ⟨2, left, 0⟩ ['=', '='] = some [] := by
  simp [decodeFrom]

/-- The bits of a byte are its bits. -/
theorem ofNat_eq {byte : UInt8} {n : Nat} (same : n = byte.toNat) : UInt8.ofNat n = byte := by
  rw [same, UInt8.ofNat_toNat]

/-- What is written is read back, group by group. -/
theorem decode_encode (bytes : List UInt8) : decode (encode bytes) = some bytes := by
  unfold decode
  induction bytes using encode.induct with
  | case1 a b c rest ih =>
    have ha := a.toNat_lt
    have hb := b.toNat_lt
    have hc := c.toNat_lt
    rw [encode, decodeFrom_first (by omega), decodeFrom_second (by omega),
      decodeFrom_third (by omega), decodeFrom_last (by omega), ih]
    simp only [Option.map_some, Option.some.injEq, List.cons.injEq, and_true]
    exact ⟨ofNat_eq (by omega), ofNat_eq (by omega), ofNat_eq (by omega)⟩
  | case2 a b =>
    have ha := a.toNat_lt
    have hb := b.toNat_lt
    rw [encode, decodeFrom_first (by omega), decodeFrom_second (by omega),
      decodeFrom_third (by omega), decodeFrom_pad]
    simp only [Option.map_some, Option.some.injEq, List.cons.injEq, and_true]
    exact ⟨ofNat_eq (by omega), ofNat_eq (by omega)⟩
  | case3 a =>
    have ha := a.toNat_lt
    rw [encode, decodeFrom_first (by omega), decodeFrom_second (by omega), decodeFrom_pads]
    simp only [Option.map_some, Option.some.injEq, List.cons.injEq, and_true]
    exact ofNat_eq (by omega)
  | case4 => rfl

end MarketingOS.Base64
