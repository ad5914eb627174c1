import MarketingOS.Base.Digits
import MarketingOS.Base.Json

/-!
# Column values

Identifiers, dates, clock times and timestamps, with the text forms a JSON payload stores them
in. Only the text forms that the writer produces are parsed.
-/
namespace MarketingOS

open Digits

/-- `uuid.UUID` — the 128-bit integer of an identifier. -/
abbrev Uuid : Type := BitVec 128

namespace Uuid

/-- Hyphens after the 8th, 12th, 16th and 20th hexadecimal digit. -/
def hyphenated (hex : List Char) : List Char :=
  hex.take 8 ++ '-' :: ((hex.drop 8).take 4 ++ '-' :: ((hex.drop 12).take 4 ++
    '-' :: ((hex.drop 16).take 4 ++ '-' :: hex.drop 20)))

/-- `str(uuid)`. -/
def print (id : Uuid) : String := String.ofList (hyphenated (write 16 32 id.toNat))

/-- `uuid.UUID(text)` — hyphens are dropped, and 32 hexadecimal digits must remain. -/
def parse (text : String) : Option Uuid :=
  let hex := text.toList.filter (fun c => c ≠ '-')
  if hex.length = 32 then (read 16 hex).map (BitVec.ofNat 128) else none

/-- No written digit is a hyphen. -/
theorem write_ne_hyphen (n : Nat) : ∀ c ∈ write 16 32 n, c ≠ '-' := by
  rintro c inside rfl
  have isDigit := digitValue_of_mem_write (by decide) (by decide) inside
  exact absurd isDigit (by decide)

/-- Dropping the hyphens of a hyphenated digit string returns the digits. -/
theorem filter_hyphenated {hex : List Char} (clean : ∀ c ∈ hex, c ≠ '-') :
    (hyphenated hex).filter (fun c => c ≠ '-') = hex := by
  have keep : ∀ part : List Char, (∀ c ∈ part, c ∈ hex) →
      part.filter (fun c => c ≠ '-') = part := by
    intro part inside
    rw [List.filter_eq_self]
    intro c member
    simpa using clean c (inside c member)
  have step (n : Nat) : (hex.drop n).take 4 ++ hex.drop (n + 4) = hex.drop n := by
    rw [← List.drop_drop, List.take_append_drop]
  simp only [hyphenated, List.filter_append, List.filter_cons, ne_eq, not_true_eq_false,
    decide_false, Bool.false_eq_true, ↓reduceIte]
  rw [keep _ (fun c h => List.mem_of_mem_take h),
    keep _ (fun c h => List.mem_of_mem_drop (List.mem_of_mem_take h)),
    keep _ (fun c h => List.mem_of_mem_drop (List.mem_of_mem_take h)),
    keep _ (fun c h => List.mem_of_mem_drop (List.mem_of_mem_take h)),
    keep _ (fun c h => List.mem_of_mem_drop h), step 16, step 12, step 8, List.take_append_drop]

/-- A printed identifier is parsed back. -/
@[simp] theorem parse_print (id : Uuid) : parse (print id) = some id := by
  simp only [parse, print, String.toList_ofList, filter_hyphenated (write_ne_hyphen id.toNat),
    length_write, ↓reduceIte, read_write (by decide : 0 < 16) (by decide) 32 id.toNat id.isLt,
    Option.map_some, BitVec.ofNat_toNat, BitVec.setWidth_eq]

/-- Different identifiers are printed differently. -/
theorem print_injective : Function.Injective print := by
  intro left right same
  have read := congrArg parse same
  rw [parse_print, parse_print] at read
  exact Option.some.inj read

/-- An identifier as JSON. -/
def codec : JsonCodec Uuid := .text print parse parse_print

end Uuid

/-- `datetime` in UTC, in microseconds since the epoch. -/
abbrev Timestamp : Type := Int

/-- One second of a `Timestamp`. -/
def second : Timestamp := 1000000

/-- Days of a month of the proleptic Gregorian calendar. -/
def daysInMonth (year month : Nat) : Nat :=
  if month = 2 then
    if year % 4 = 0 ∧ (year % 100 ≠ 0 ∨ year % 400 = 0) then 29 else 28
  else if month = 4 ∨ month = 6 ∨ month = 9 ∨ month = 11 then 30 else 31

/-- `datetime.date` — a calendar day of the years 1 to 9999. -/
structure Date where
  year : Nat
  month : Nat
  day : Nat
  /-- The day exists. -/
  exists_day : (1 ≤ year ∧ year ≤ 9999) ∧ (1 ≤ month ∧ month ≤ 12) ∧
    1 ≤ day ∧ day ≤ daysInMonth year month
deriving DecidableEq, Repr

namespace Date

/-- The day of three numbers, when there is one. -/
def ofNumbers (year month day : Nat) : Option Date :=
  if h : (1 ≤ year ∧ year ≤ 9999) ∧ (1 ≤ month ∧ month ≤ 12) ∧
      1 ≤ day ∧ day ≤ daysInMonth year month then some ⟨year, month, day, h⟩ else none

/-- Position in calendar order. -/
def rank (date : Date) : Nat := date.year * 10000 + date.month * 100 + date.day

instance : LE Date := ⟨fun left right => left.rank ≤ right.rank⟩
instance : LT Date := ⟨fun left right => left.rank < right.rank⟩
instance (left right : Date) : Decidable (left ≤ right) :=
  inferInstanceAs (Decidable (left.rank ≤ right.rank))
instance (left right : Date) : Decidable (left < right) :=
  inferInstanceAs (Decidable (left.rank < right.rank))

/-- Days are totally ordered: one that does not come after another comes before it or is it. -/
theorem not_lt {left right : Date} : ¬right < left ↔ left ≤ right := Nat.not_lt

/-- A day does not come after itself. -/
theorem le_refl (date : Date) : date ≤ date := Nat.le_refl _

/-- `date.isoformat()`. -/
def print (date : Date) : String :=
  String.ofList
    (write 10 4 date.year ++ '-' :: (write 10 2 date.month ++ '-' :: write 10 2 date.day))

/-- `date.fromisoformat(text)`, for the form `YYYY-MM-DD`. -/
def parse (text : String) : Option Date :=
  match text.toList with
  | [y₁, y₂, y₃, y₄, '-', m₁, m₂, '-', d₁, d₂] => do
    let year ← read 10 [y₁, y₂, y₃, y₄]
    let month ← read 10 [m₁, m₂]
    let day ← read 10 [d₁, d₂]
    ofNumbers year month day
  | _ => none

/-- A printed day is parsed back. -/
@[simp] theorem parse_print (date : Date) : parse (print date) = some date := by
  obtain ⟨year, month, day, valid⟩ := date
  have days : daysInMonth year month ≤ 31 := by
    unfold daysInMonth
    split <;> split <;> omega
  have yearBack := read_write (by decide : 0 < 10) (by decide) 4 year (by omega)
  have monthBack := read_write (by decide : 0 < 10) (by decide) 2 month (by omega)
  have dayBack := read_write (by decide : 0 < 10) (by decide) 2 day (by omega)
  simp only [write, List.nil_append, List.cons_append] at yearBack monthBack dayBack
  simp only [parse, print, String.toList_ofList, write, List.nil_append, List.cons_append,
    yearBack, monthBack, dayBack, bind, Option.bind, ofNumbers, valid, and_self, ↓reduceDIte]

/-- A day as JSON. -/
def codec : JsonCodec Date := .text print parse parse_print

end Date

/-- `datetime.time` — a clock reading in microseconds, with the minutes of its UTC offset when
it has one. -/
structure Time where
  micros : Nat
  offset : Option Int
  /-- The clock reading is one of a day, and an offset is shorter than a day. -/
  bounds : micros < 86400000000 ∧ ∀ minutes ∈ offset, -1440 < minutes ∧ minutes < 1440
deriving DecidableEq, Repr

namespace Time

/-- The clock reading of three numbers and microseconds, when there is one. -/
def ofNumbers (hour minute second micros : Nat) (offset : Option Int) : Option Time :=
  if hour < 24 ∧ minute < 60 ∧ second < 60 ∧ micros < 1000000 then
    let total := ((hour * 60 + minute) * 60 + second) * 1000000 + micros
    if h : total < 86400000000 ∧ ∀ minutes ∈ offset, -1440 < minutes ∧ minutes < 1440 then
      some ⟨total, offset, h⟩
    else none
  else none

/-- The instant of the day in UTC that comparison of two times with offsets uses. -/
def instant (time : Time) : Int := time.micros - time.offset.getD 0 * 60000000

/-- `left > right`; Python refuses to compare a time that has an offset with one that has
none, and this is none then. -/
def gt (left right : Time) : Option Bool :=
  match left.offset, right.offset with
  | none, none => some (decide (right.micros < left.micros))
  | some _, some _ => some (decide (right.instant < left.instant))
  | _, _ => none

/-- What a `Time` column without time zone stores: the clock reading. -/
def stored (time : Time) : Time := ⟨time.micros, none, time.bounds.1, by simp⟩

/-- Storing twice stores the same. -/
@[simp] theorem stored_stored (time : Time) : time.stored.stored = time.stored := rfl

/-- The fraction of a printed second: nothing for a whole second, else six digits. -/
def printFraction (micros : Nat) : List Char :=
  if micros = 0 then [] else '.' :: write 10 6 micros

/-- The printed offset: nothing, `Z`, or a sign with hours and minutes. -/
def printOffset : Option Int → List Char
  | none => []
  | some minutes =>
    if minutes = 0 then ['Z']
    else (if minutes < 0 then '-' else '+') ::
      (write 10 2 (minutes.natAbs / 60) ++ ':' :: write 10 2 (minutes.natAbs % 60))

/-- The JSON text of a time. -/
def print (time : Time) : String :=
  let seconds := time.micros / 1000000
  String.ofList (write 10 2 (seconds / 3600) ++ ':' :: (write 10 2 (seconds / 60 % 60) ++
    ':' :: (write 10 2 (seconds % 60) ++ (printFraction (time.micros % 1000000) ++
      printOffset time.offset))))

/-- Read a printed offset. -/
def parseOffset : List Char → Option (Option Int)
  | [] => some none
  | ['Z'] => some (some 0)
  | [sign, h₁, h₂, ':', m₁, m₂] => do
    let hours ← read 10 [h₁, h₂]
    let minutes ← read 10 [m₁, m₂]
    if sign = '+' then some (some (hours * 60 + minutes : Nat))
    else if sign = '-' then some (some (-(hours * 60 + minutes : Nat)))
    else none
  | _ => none

/-- Read the fraction of a second, returning the characters after it. -/
def parseFraction : List Char → Option (Nat × List Char)
  | '.' :: f₁ :: f₂ :: f₃ :: f₄ :: f₅ :: f₆ :: rest =>
    (read 10 [f₁, f₂, f₃, f₄, f₅, f₆]).map fun micros => (micros, rest)
  | rest => some (0, rest)

/-- Parse the JSON text of a time. -/
def parse (text : String) : Option Time :=
  match text.toList with
  | h₁ :: h₂ :: ':' :: m₁ :: m₂ :: ':' :: s₁ :: s₂ :: rest => do
    let hour ← read 10 [h₁, h₂]
    let minute ← read 10 [m₁, m₂]
    let second ← read 10 [s₁, s₂]
    let (micros, rest) ← parseFraction rest
    let offset ← parseOffset rest
    ofNumbers hour minute second micros offset
  | _ => none

/-- A printed offset is read back. -/
theorem parseOffset_printOffset (offset : Option Int)
    (bound : ∀ minutes ∈ offset, -1440 < minutes ∧ minutes < 1440) :
    parseOffset (printOffset offset) = some offset := by
  cases offset with
  | none => rfl
  | some minutes =>
    have inside := bound minutes rfl
    by_cases zero : minutes = 0
    · simp [printOffset, parseOffset, zero]
    · have hoursBack := read_write (by decide : 0 < 10) (by decide) 2 (minutes.natAbs / 60)
        (by omega)
      have minutesBack := read_write (by decide : 0 < 10) (by decide) 2 (minutes.natAbs % 60)
        (by omega)
      have total : minutes.natAbs / 60 * 60 + minutes.natAbs % 60 = minutes.natAbs :=
        Nat.div_add_mod' _ _
      simp only [write, List.nil_append, List.cons_append] at hoursBack minutesBack
      by_cases negative : minutes < 0
      · simp only [printOffset, zero, negative, ↓reduceIte, write, List.nil_append,
          List.cons_append, parseOffset, hoursBack, minutesBack, bind, Option.bind, total,
          show ('-' : Char) ≠ '+' by decide, Option.some.injEq]
        omega
      · simp only [printOffset, zero, negative, ↓reduceIte, write, List.nil_append,
          List.cons_append, parseOffset, hoursBack, minutesBack, bind, Option.bind, total,
          Option.some.injEq]
        omega

/-- A printed offset does not begin with a decimal point. -/
theorem parseFraction_printOffset (offset : Option Int) :
    parseFraction (printOffset offset) = some (0, printOffset offset) := by
  cases offset with
  | none => rfl
  | some minutes =>
    by_cases zero : minutes = 0
    · simp [printOffset, parseFraction, zero]
    · by_cases negative : minutes < 0 <;>
        simp [printOffset, parseFraction, zero, negative]

/-- A printed fraction before an offset is read back. -/
theorem parseFraction_print (micros : Nat) (small : micros < 1000000) (offset : Option Int) :
    parseFraction (printFraction micros ++ printOffset offset) =
      some (micros, printOffset offset) := by
  by_cases zero : micros = 0
  · simp [printFraction, zero, parseFraction_printOffset]
  · have back := read_write (by decide : 0 < 10) (by decide) 6 micros (by omega)
    simp only [write, List.nil_append, List.cons_append] at back
    simp only [printFraction, zero, ↓reduceIte, write, List.nil_append, List.cons_append,
      parseFraction, back, Option.map_some]

/-- A printed time is parsed back. -/
@[simp] theorem parse_print (time : Time) : parse (print time) = some time := by
  obtain ⟨micros, offset, inDay, inOffset⟩ := time
  have hourBack := read_write (by decide : 0 < 10) (by decide) 2 (micros / 1000000 / 3600)
    (by omega)
  have minuteBack := read_write (by decide : 0 < 10) (by decide) 2 (micros / 1000000 / 60 % 60)
    (by omega)
  have secondBack := read_write (by decide : 0 < 10) (by decide) 2 (micros / 1000000 % 60)
    (by omega)
  have total : ((micros / 1000000 / 3600 * 60 + micros / 1000000 / 60 % 60) * 60 +
      micros / 1000000 % 60) * 1000000 + micros % 1000000 = micros := by omega
  have parts : micros / 1000000 / 3600 < 24 ∧ micros / 1000000 / 60 % 60 < 60 ∧
      micros / 1000000 % 60 < 60 ∧ micros % 1000000 < 1000000 := by omega
  simp only [write, List.nil_append, List.cons_append] at hourBack minuteBack secondBack
  simp only [parse, print, String.toList_ofList, write, List.nil_append, List.cons_append,
    hourBack, minuteBack, secondBack, bind, Option.bind,
    parseFraction_print (micros % 1000000) (by omega) offset,
    parseOffset_printOffset offset inOffset, ofNumbers, parts, and_self, ↓reduceIte, total]
  exact dif_pos ⟨inDay, inOffset⟩

/-- A time as JSON. -/
def codec : JsonCodec Time := .text print parse parse_print

end Time

/-- The first characters of a text, as the slice `text[:limit]` takes them. -/
def clip (limit : Nat) (text : String) : String := String.ofList (text.toList.take limit)

/-- The length of a text cut short. -/
theorem length_clip (limit : Nat) (text : String) :
    (clip limit text).length = min limit text.length := by
  rw [clip, String.length_ofList, List.length_take, String.length_toList]

/-- A text that fits is not cut. -/
theorem clip_of_fits {limit : Nat} {text : String} (fits : text.length ≤ limit) :
    clip limit text = text := by
  rw [clip, List.take_of_length_le (by rwa [String.length_toList]), String.ofList_toList]

/-- `Field(min_length=lower, max_length=upper)` — a text of bounded length. -/
abbrev BoundedText (lower upper : Nat) : Type :=
  { text : String // lower ≤ text.length ∧ text.length ≤ upper }

/-- A text of bounded length as JSON; one out of bounds is refused. -/
def BoundedText.codec (lower upper : Nat) : JsonCodec (BoundedText lower upper) :=
  JsonCodec.string.refine fun text => lower ≤ text.length ∧ text.length ≤ upper

end MarketingOS
