import Mathlib.Tactic.ByContra
import MarketingOS.Models.Values

/-!
# Day arithmetic

Differences of days and days so many days away. Going one day on counts one, which ties the steps
through the calendar to the day numbers of the proleptic Gregorian calendar.
-/
namespace MarketingOS.Date

/-- Days of a year. -/
def yearLength (year : Nat) : Nat :=
  if year % 4 = 0 ∧ (year % 100 ≠ 0 ∨ year % 400 = 0) then 366 else 365

/-- Days before the first of January of a year. -/
def daysBeforeYear (year : Nat) : Nat :=
  (year - 1) * 365 + (year - 1) / 4 - (year - 1) / 100 + (year - 1) / 400

/-- Days of a year before the first of a month. -/
def daysBeforeMonth (year : Nat) : Nat → Nat
  | 0 | 1 => 0
  | month + 2 => daysBeforeMonth year (month + 1) + daysInMonth year (month + 1)

/-- `date.toordinal()` — the first of January of year 1 is day 1. -/
def toordinal (date : Date) : Nat :=
  daysBeforeYear date.year + daysBeforeMonth date.year date.month + date.day

/-- `(later - earlier).days` -/
def daysSince (later earlier : Date) : Int := later.toordinal - earlier.toordinal

/-- The day after, if the calendar has one. -/
def next (date : Date) : Option Date :=
  if date.day < daysInMonth date.year date.month then
    ofNumbers date.year date.month (date.day + 1)
  else if date.month < 12 then ofNumbers date.year (date.month + 1) 1
  else ofNumbers (date.year + 1) 1 1

/-- The day before, if the calendar has one. -/
def previous (date : Date) : Option Date :=
  if 1 < date.day then ofNumbers date.year date.month (date.day - 1)
  else if 1 < date.month then
    ofNumbers date.year (date.month - 1) (daysInMonth date.year (date.month - 1))
  else ofNumbers (date.year - 1) 12 31

/-- So many steps through the calendar. -/
def steps (step : Date → Option Date) : Nat → Date → Option Date
  | 0, date => some date
  | count + 1, date => (step date).bind (steps step count)

/-- `date + timedelta(days=days)`; nothing stands for an `OverflowError`. -/
def plusDays (date : Date) : Int → Option Date
  | .ofNat days => steps next days date
  | .negSucc days => steps previous (days + 1) date

/-! ## Day numbers -/

/-- A month begins when the month before is over. -/
theorem daysBeforeMonth_succ (year : Nat) {month : Nat} (first : 1 ≤ month) :
    daysBeforeMonth year (month + 1) = daysBeforeMonth year month + daysInMonth year month := by
  obtain ⟨before, rfl⟩ := Nat.exists_eq_add_of_le' first
  rfl

/-- A later month begins later. -/
theorem daysBeforeMonth_mono (year : Nat) {month later : Nat} (first : 1 ≤ month)
    (order : month ≤ later) : daysBeforeMonth year month ≤ daysBeforeMonth year later := by
  obtain ⟨months, rfl⟩ := Nat.exists_eq_add_of_le order
  induction months with
  | zero => exact Nat.le_refl _
  | succ months ih =>
    rw [← Nat.add_assoc, daysBeforeMonth_succ year (by omega)]
    exact Nat.le_add_right_of_le (ih (Nat.le_add_right _ _))

/-- The twelve months fill the year. -/
theorem daysBeforeMonth_thirteen (year : Nat) : daysBeforeMonth year 13 = yearLength year := by
  simp only [daysBeforeMonth, daysInMonth, yearLength, Nat.reduceAdd, Nat.reduceEqDiff, reduceIte,
    or_false, or_true]
  split <;> rfl

/-- A year begins when the year before is over. -/
theorem daysBeforeYear_succ {year : Nat} (first : 1 ≤ year) :
    daysBeforeYear (year + 1) = daysBeforeYear year + yearLength year := by
  obtain ⟨before, rfl⟩ := Nat.exists_eq_add_of_le' first
  have fourth : (before + 1) / 4 = before / 4 + if (before + 1) % 4 = 0 then 1 else 0 := by
    split <;> omega
  have century : (before + 1) / 100 =
      before / 100 + if (before + 1) % 100 = 0 then 1 else 0 := by
    split <;> omega
  have era : (before + 1) / 400 = before / 400 + if (before + 1) % 400 = 0 then 1 else 0 := by
    split <;> omega
  have fewer : before / 100 ≤ before := Nat.div_le_self _ _
  have centuries : (before + 1) % 400 = 0 → (before + 1) % 100 = 0 := by omega
  have fourths : (before + 1) % 100 = 0 → (before + 1) % 4 = 0 := by omega
  simp only [daysBeforeYear, yearLength, Nat.add_sub_cancel, fourth, century, era]
  generalize before / 4 = a, before / 100 = b, before / 400 = c at *
  by_cases h4 : (before + 1) % 4 = 0
  · by_cases h100 : (before + 1) % 100 = 0
    · by_cases h400 : (before + 1) % 400 = 0 <;> simp [h4, h100, h400] <;> omega
    · have h400 : ¬(before + 1) % 400 = 0 := fun era => h100 (centuries era)
      simp [h4, h100, h400]
      omega
  · have h100 : ¬(before + 1) % 100 = 0 := fun century => h4 (fourths century)
    have h400 : ¬(before + 1) % 400 = 0 := fun era => h100 (centuries era)
    simp [h4, h100, h400]
    omega

/-- A later year begins later. -/
theorem daysBeforeYear_mono {year later : Nat} (first : 1 ≤ year) (order : year ≤ later) :
    daysBeforeYear year ≤ daysBeforeYear later := by
  obtain ⟨years, rfl⟩ := Nat.exists_eq_add_of_le order
  induction years with
  | zero => exact Nat.le_refl _
  | succ years ih =>
    rw [← Nat.add_assoc, daysBeforeYear_succ (by omega)]
    exact Nat.le_add_right_of_le (ih (Nat.le_add_right _ _))

/-- A day lies in its month. -/
theorem day_in_month (date : Date) :
    daysBeforeMonth date.year date.month + date.day ≤
      daysBeforeMonth date.year (date.month + 1) := by
  rw [daysBeforeMonth_succ _ date.exists_day.2.1.1]
  exact Nat.add_le_add_left date.exists_day.2.2.2 _

/-- A day lies in its year. -/
theorem day_in_year (date : Date) :
    daysBeforeMonth date.year date.month + date.day ≤ yearLength date.year := by
  have month := date.exists_day.2.1
  rw [← daysBeforeMonth_thirteen]
  exact Nat.le_trans date.day_in_month
    (daysBeforeMonth_mono _ (Nat.le_add_left 1 _) (Nat.succ_le_succ month.2))

/-- No month has more than 31 days. -/
theorem day_le (date : Date) : date.day ≤ 31 := by
  have inside := date.exists_day.2.2.2
  unfold daysInMonth at inside
  split at inside <;> split at inside <;> omega

/-- A day is its place in calendar order. -/
theorem rank_injective {left right : Date} (same : left.rank = right.rank) : left = right := by
  have smallLeft := left.day_le
  have smallRight := right.day_le
  obtain ⟨year, month, day, valid⟩ := left
  obtain ⟨year', month', day', valid'⟩ := right
  simp only [rank] at same smallLeft smallRight
  obtain rfl : year = year' := by omega
  obtain rfl : month = month' := by omega
  obtain rfl : day = day' := by omega
  rfl

/-- Day numbers follow the calendar. -/
theorem toordinal_lt {left right : Date} (before : left < right) :
    left.toordinal < right.toordinal := by
  have monthLeft := left.exists_day.2.1
  have monthRight := right.exists_day.2.1
  have dayRight := right.exists_day.2.2.1
  have smallLeft := left.day_le
  have smallRight := right.day_le
  have order : left.rank < right.rank := before
  unfold rank at order
  unfold toordinal
  by_cases years : left.year < right.year
  · have whole := left.day_in_year
    have grow := daysBeforeYear_mono (Nat.le_add_left 1 _) (Nat.succ_le_of_lt years)
    rw [daysBeforeYear_succ left.exists_day.1.1] at grow
    omega
  · obtain sameYear : left.year = right.year := by omega
    rw [sameYear]
    by_cases months : left.month < right.month
    · have whole := left.day_in_month
      have grow := daysBeforeMonth_mono right.year (Nat.le_add_left 1 _) (Nat.succ_le_of_lt months)
      rw [sameYear] at whole
      omega
    · obtain sameMonth : left.month = right.month := by omega
      rw [sameMonth]
      omega

/-- One day comes after another when its number is larger. -/
theorem toordinal_le {left right : Date} :
    left.toordinal ≤ right.toordinal ↔ left ≤ right := by
  constructor
  · intro order
    rw [← not_lt]
    intro before
    exact absurd (toordinal_lt before) (by omega)
  · intro order
    by_cases before : left < right
    · exact Nat.le_of_lt (toordinal_lt before)
    · exact Nat.le_of_eq
        (congrArg toordinal (rank_injective (Nat.le_antisymm order (not_lt.mp before))))

/-- Different days have different numbers. -/
theorem toordinal_injective {left right : Date} (same : left.toordinal = right.toordinal) :
    left = right :=
  rank_injective (Nat.le_antisymm (toordinal_le.mp (Nat.le_of_eq same))
    (toordinal_le.mp (Nat.le_of_eq same.symm)))

/-- No day comes after the last one of the calendar. -/
theorem toordinal_le_max (date : Date) : date.toordinal ≤ 3652059 := by
  have whole := date.day_in_year
  have grow := daysBeforeYear_mono (Nat.le_add_left 1 _) (Nat.succ_le_succ date.exists_day.1.2)
  rw [daysBeforeYear_succ date.exists_day.1.1] at grow
  have all : daysBeforeYear (Nat.succ 9999) = 3652059 := by decide
  unfold toordinal
  omega

/-! ## Days after a day -/

/-- Three numbers are a day when the month has that day. -/
theorem ofNumbers_eq (year month day : Nat) (valid : (1 ≤ year ∧ year ≤ 9999) ∧
    (1 ≤ month ∧ month ≤ 12) ∧ 1 ≤ day ∧ day ≤ daysInMonth year month) :
    ofNumbers year month day = some ⟨year, month, day, valid⟩ := dif_pos valid

/-- Every day but the last of the calendar has a day after it, which counts one more. -/
theorem next_of_lt {date : Date} (before : date.toordinal < 3652059) :
    ∃ after, date.next = some after ∧ after.toordinal = date.toordinal + 1 := by
  obtain ⟨year, month, day, valid⟩ := date
  have first (year month : Nat) : 1 ≤ daysInMonth year month := by
    unfold daysInMonth
    split <;> split <;> omega
  by_cases inMonth : day < daysInMonth year month
  · refine ⟨_, (if_pos inMonth).trans (ofNumbers_eq year month (day + 1)
      ⟨valid.1, valid.2.1, Nat.le_add_left _ _, inMonth⟩), rfl⟩
  · have whole : day = daysInMonth year month := by omega
    by_cases inYear : month < 12
    · refine ⟨_, (if_neg inMonth).trans ((if_pos inYear).trans (ofNumbers_eq year (month + 1) 1
        ⟨valid.1, ⟨Nat.le_add_left _ _, inYear⟩, Nat.le_refl _, first _ _⟩)), ?_⟩
      simp only [toordinal, daysBeforeMonth_succ year valid.2.1.1, whole]
      omega
    · obtain rfl : month = 12 := by omega
      have filled : daysBeforeMonth year 13 = daysBeforeMonth year 12 + daysInMonth year 12 :=
        daysBeforeMonth_succ year (by decide)
      rw [daysBeforeMonth_thirteen] at filled
      have begin : daysBeforeMonth (year + 1) 1 = 0 := rfl
      have inCalendar : year + 1 ≤ 9999 := by
        by_contra last
        obtain rfl : year = 9999 := by omega
        subst whole
        have number : daysBeforeYear 9999 + daysBeforeMonth 9999 12 + daysInMonth 9999 12 =
            3652059 := by decide
        exact Nat.lt_irrefl _ (number ▸ before)
      refine ⟨_, (if_neg inMonth).trans ((if_neg inYear).trans (ofNumbers_eq (year + 1) 1 1
        ⟨⟨Nat.le_add_left _ _, inCalendar⟩, by decide, Nat.le_refl _, first _ _⟩)), ?_⟩
      simp only [toordinal, daysBeforeYear_succ valid.1.1, begin, whole]
      omega

/-- So many days on count so many more, as far as the calendar goes. -/
theorem steps_next {date : Date} {days : Nat} (within : date.toordinal + days ≤ 3652059) :
    ∃ after, steps next days date = some after ∧ after.toordinal = date.toordinal + days := by
  induction days generalizing date with
  | zero => exact ⟨date, rfl, rfl⟩
  | succ days ih =>
    have notLast : date.toordinal < 3652059 := by omega
    obtain ⟨tomorrow, isNext, number⟩ := next_of_lt notLast
    have rest : tomorrow.toordinal + days ≤ 3652059 := by omega
    obtain ⟨after, reached, total⟩ := ih rest
    refine ⟨after, ?_, by omega⟩
    rw [steps, isNext, Option.bind_some, reached]

/-- A day so far on that another day is not passed. -/
theorem plusDays_before {date last : Date} {days : Nat}
    (within : date.toordinal + days ≤ last.toordinal) :
    ∃ after, date.plusDays days = some after ∧ after.toordinal = date.toordinal + days ∧
      date ≤ after ∧ after ≤ last := by
  obtain ⟨after, reached, number⟩ := steps_next (Nat.le_trans within last.toordinal_le_max)
  exact ⟨after, reached, number, toordinal_le.mp (by omega), toordinal_le.mp (by omega)⟩

/-- Numbers that are a day are the numbers of that day. -/
theorem eq_of_ofNumbers {year month day : Nat} {date : Date}
    (found : ofNumbers year month day = some date) :
    date.year = year ∧ date.month = month ∧ date.day = day := by
  unfold ofNumbers at found
  split at found
  · obtain rfl := Option.some.inj found
    exact ⟨rfl, rfl, rfl⟩
  · cases found

/-- The day before counts one less. -/
theorem toordinal_previous {date before : Date} (found : date.previous = some before) :
    before.toordinal + 1 = date.toordinal := by
  have sameYear := before.exists_day.1.1
  obtain ⟨year, month, day, valid⟩ := date
  unfold previous at found
  dsimp only at found
  simp only [toordinal]
  split at found
  · obtain ⟨isYear, isMonth, isDay⟩ := eq_of_ofNumbers found
    rw [isYear, isMonth, isDay]
    omega
  · obtain rfl : day = 1 := by omega
    split at found
    · obtain ⟨isYear, isMonth, isDay⟩ := eq_of_ofNumbers found
      have whole := daysBeforeMonth_succ year (show 1 ≤ month - 1 by omega)
      rw [show month - 1 + 1 = month by omega] at whole
      rw [isYear, isMonth, isDay, whole]
      omega
    · obtain rfl : month = 1 := by omega
      obtain ⟨isYear, isMonth, isDay⟩ := eq_of_ofNumbers found
      rw [isYear] at sameYear
      have whole := daysBeforeYear_succ sameYear
      rw [show year - 1 + 1 = year by omega] at whole
      have filled := daysBeforeMonth_succ (year - 1) (show 1 ≤ 12 by decide)
      rw [daysBeforeMonth_thirteen] at filled
      have december : daysInMonth (year - 1) 12 = 31 := rfl
      have january : daysBeforeMonth year 1 = 0 := rfl
      rw [isYear, isMonth, isDay]
      omega

/-- So many days back count so many less. -/
theorem toordinal_minusDays {date before : Date} {days : Nat}
    (found : date.plusDays (-days) = some before) : before.toordinal + days = date.toordinal := by
  have back : steps previous days date = some before := by
    cases days with
    | zero => exact found
    | succ days => exact found
  clear found
  induction days generalizing date with
  | zero =>
    obtain rfl := Option.some.inj back
    rfl
  | succ days ih =>
    obtain ⟨yesterday, isBefore, rest⟩ := Option.bind_eq_some_iff.mp back
    have step := toordinal_previous isBefore
    have later := ih rest
    omega

/-- A leap day is counted. -/
example : (ofNumbers 2024 2 28).bind (fun date => date.plusDays 2) = ofNumbers 2024 3 1 := by
  decide

end MarketingOS.Date
