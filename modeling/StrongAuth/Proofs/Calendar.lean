import Mathlib.Order.Interval.Finset.Nat
import Mathlib.Order.SuccPred.Archimedean
import Mathlib.Tactic.IntervalCases
import StrongAuth.Time.Calendar

/-! # Days and dates

Main statements: the calendar has the date of every day number, that date has that day number
again, and of two dates of the calendar the earlier one has the smaller number. -/

namespace StrongAuth.Time

theorem isLeapYear_iff (year : Int) :
    isLeapYear year = true ↔ year % 4 = 0 ∧ (year % 100 ≠ 0 ∨ year % 400 = 0) := by
  simp [isLeapYear]

theorem monthLength_two (year : Int) :
    monthLength year 2 = if year % 4 = 0 ∧ (year % 100 ≠ 0 ∨ year % 400 = 0) then 29 else 28 := by
  have same := isLeapYear_iff year
  cases leap : isLeapYear year <;> simp_all [monthLength]

namespace Date

/-! ## Months in a row -/

/-- A month starts where the one before it ends. -/
theorem dayNumber_next {month : Nat} (year : Int) (first : 1 ≤ month) (last : month ≤ 12) :
    dayNumber ⟨year, month, 1⟩ + monthLength year month =
      if month < 12 then dayNumber ⟨year, month + 1, 1⟩ else dayNumber ⟨year + 1, 1, 1⟩ := by
  obtain february | other := Decidable.em (month = 2)
  · subst february
    rw [monthLength_two]
    simp only [dayNumber]
    split <;> simp <;> omega
  · interval_cases month <;> simp [dayNumber, monthLength] at other ⊢ <;> omega

/-- The day number of the first day of a month; months are counted on from the January of the
year zero. -/
def monthStart (index : Int) : Int :=
  dayNumber ⟨index / 12, (index % 12).toNat + 1, 1⟩

theorem monthStart_succ (index : Int) :
    monthStart (index + 1) =
      monthStart index + monthLength (index / 12) ((index % 12).toNat + 1) := by
  have next := @dayNumber_next ((index % 12).toNat + 1) (index / 12) (by omega) (by omega)
  unfold monthStart
  rw [next]
  split
  · next within =>
      rw [show (index + 1) / 12 = index / 12 by omega,
        show ((index + 1) % 12).toNat = (index % 12).toNat + 1 by omega]
  · next last =>
      rw [show (index + 1) / 12 = index / 12 + 1 by omega,
        show ((index + 1) % 12).toNat = 0 by omega]

theorem monthLength_bounds {month : Nat} (year : Int) (first : 1 ≤ month) (last : month ≤ 12) :
    28 ≤ monthLength year month ∧ monthLength year month ≤ 31 := by
  obtain february | other := Decidable.em (month = 2)
  · rw [february, monthLength_two]
    split <;> decide
  · interval_cases month <;> simp [monthLength] at other ⊢

theorem monthStart_le {first last : Int} (ordered : first ≤ last) :
    monthStart first ≤ monthStart last := by
  apply monotone_int_of_le_succ _ ordered
  intro index
  have bounds := @monthLength_bounds ((index % 12).toNat + 1) (index / 12) (by omega) (by omega)
  rw [monthStart_succ]
  omega

/-! ## Dates in a row -/

theorem isValid_iff (date : Date) :
    date.isValid = true ↔ 1 ≤ date.month ∧ date.month ≤ 12 ∧ 1 ≤ date.day ∧
      date.day ≤ monthLength date.year date.month := by
  have inside : date.day ≤ monthLength date.year date.month → 1 ≤ date.day →
      1 ≤ date.month ∧ date.month ≤ 12 := by
    intro within positive
    by_contra outside
    have empty : monthLength date.year date.month = 0 := by
      unfold monthLength
      split <;> first | rfl | omega
    omega
  simp only [isValid, Bool.and_eq_true, decide_eq_true_eq]
  constructor
  · rintro ⟨positive, within⟩
    have month := inside within positive
    exact ⟨month.1, month.2, positive, within⟩
  · rintro ⟨_, _, positive, within⟩
    exact ⟨positive, within⟩

def monthIndex (date : Date) : Int :=
  12 * date.year + date.month - 1

theorem monthIndex_parts {date : Date} (first : 1 ≤ date.month) (last : date.month ≤ 12) :
    date.monthIndex / 12 = date.year ∧ (date.monthIndex % 12).toNat + 1 = date.month := by
  unfold monthIndex
  omega

theorem dayNumber_eq {date : Date} (first : 1 ≤ date.month) (last : date.month ≤ 12) :
    date.dayNumber = monthStart date.monthIndex + date.day - 1 := by
  rcases monthIndex_parts first last with ⟨year, month⟩
  rw [monthStart, year, month]
  simp only [dayNumber]
  omega

/-- The days of a month come before the next month starts. -/
theorem dayNumber_lt_monthStart {date : Date} (valid : date.isValid = true) {index : Int}
    (later : date.monthIndex < index) : date.dayNumber < monthStart index := by
  rcases (isValid_iff date).mp valid with ⟨first, last, _, within⟩
  have next : monthStart (date.monthIndex + 1) ≤ monthStart index :=
    monthStart_le (by omega)
  rcases monthIndex_parts first last with ⟨year, month⟩
  rw [monthStart_succ, year, month] at next
  rw [dayNumber_eq first last]
  omega

/-- The chronological order of dates. -/
def Before (left right : Date) : Prop :=
  left.monthIndex < right.monthIndex ∨
    left.monthIndex = right.monthIndex ∧ left.day < right.day

theorem dayNumber_lt_of_before {left right : Date} (leftValid : left.isValid = true)
    (rightValid : right.isValid = true) (before : left.Before right) :
    left.dayNumber < right.dayNumber := by
  rcases (isValid_iff left).mp leftValid with ⟨leftFirst, leftLast, _⟩
  rcases (isValid_iff right).mp rightValid with ⟨first, last, positive, _⟩
  rcases before with earlier | ⟨sameMonth, earlier⟩
  · have started := dayNumber_lt_monthStart leftValid earlier
    rw [dayNumber_eq first last]
    omega
  · rw [dayNumber_eq leftFirst leftLast, dayNumber_eq first last, sameMonth]
    omega

theorem eq_of_not_before {left right : Date} (leftValid : left.isValid = true)
    (rightValid : right.isValid = true) (notBefore : ¬ left.Before right)
    (notAfter : ¬ right.Before left) : left = right := by
  rcases (isValid_iff left).mp leftValid with ⟨leftFirst, leftLast, _⟩
  rcases (isValid_iff right).mp rightValid with ⟨first, last, _⟩
  rcases left with ⟨leftYear, leftMonth, leftDay⟩
  rcases right with ⟨year, month, day⟩
  simp only [Before, monthIndex, Date.mk.injEq] at *
  omega

theorem dayNumber_lt_iff {left right : Date} (leftValid : left.isValid = true)
    (rightValid : right.isValid = true) :
    left.dayNumber < right.dayNumber ↔ left.Before right := by
  refine ⟨fun smaller => ?_, dayNumber_lt_of_before leftValid rightValid⟩
  by_contra notBefore
  by_cases after : right.Before left
  · have := dayNumber_lt_of_before rightValid leftValid after
    omega
  · rw [eq_of_not_before leftValid rightValid notBefore after] at smaller
    omega

/-! ## The date of a day number -/

/-- A day of a cycle of four hundred years: full centuries, full quadrennia after them, full
years after these, and days after these. Years begin in March here, so that a leap day is the
last day of a quadrennium. -/
structure CycleDay where
  century : Nat
  quadrennium : Nat
  year : Nat
  day : Nat
  century_le : century ≤ 3
  quadrennium_le : quadrennium ≤ 24
  year_le : year ≤ 3
  day_le : day ≤ 365
  leap : day = 365 → year = 3 ∧ (quadrennium = 24 → century = 3)

namespace CycleDay

def number (position : CycleDay) : Nat :=
  36524 * position.century + 1461 * position.quadrennium + 365 * position.year + position.day

def yearOfCycle (position : CycleDay) : Nat :=
  100 * position.century + 4 * position.quadrennium + position.year

theorem exists_number {number : Nat} (within : number < 146097) :
    ∃ position : CycleDay, position.number = number := by
  let century := min 3 (number / 36524)
  let ofCentury := number - 36524 * century
  let quadrennium := ofCentury / 1461
  let ofQuadrennium := ofCentury % 1461
  let year := min 3 (ofQuadrennium / 365)
  let day := ofQuadrennium - 365 * year
  refine ⟨⟨century, quadrennium, year, day, by omega, by omega, by omega, by omega, by omega⟩, ?_⟩
  simp only [CycleDay.number]
  omega

/-- The years of a cycle come out by taking leap days away until all years are of one length. -/
theorem yearOfCycle_eq (position : CycleDay) :
    (position.number - position.number / 1460 + position.number / 36524 -
      position.number / 146096) / 365 = position.yearOfCycle := by
  rcases position with
    ⟨century, quadrennium, year, day, centuryLe, quadrenniumLe, yearLe, dayLe, leap⟩
  simp only [number, yearOfCycle]
  generalize total : 36524 * century + 1461 * quadrennium + 365 * year + day = number
  by_cases last : quadrennium = 24 ∧ day = 365
  · -- The last day of the cycle.
    have ends : number = 146096 := by omega
    subst ends
    omega
  · have quadrennia : number / 1460 = 25 * century + quadrennium +
        if 1460 ≤ 24 * century + quadrennium + 365 * year + day then 1 else 0 := by
      split <;> omega
    have centuries : number / 36524 = century := by omega
    have cycles : number / 146096 = 0 := by omega
    rw [quadrennia, centuries, cycles]
    split <;> omega

theorem yearStart_eq (position : CycleDay) :
    365 * position.yearOfCycle + position.yearOfCycle / 4 - position.yearOfCycle / 100 +
      position.day = position.number := by
  rcases position with
    ⟨century, quadrennium, year, day, centuryLe, quadrenniumLe, yearLe, dayLe, leap⟩
  simp only [number, yearOfCycle]
  have quarters : (100 * century + 4 * quadrennium + year) / 4 = 25 * century + quadrennium := by
    omega
  have hundreds : (100 * century + 4 * quadrennium + year) / 100 = century := by omega
  rw [quarters, hundreds]
  omega

end CycleDay

def ofMarch (year : Int) (dayOfYear : Nat) : Date :=
  let month := (5 * dayOfYear + 2) / 153
  let day := dayOfYear - (153 * month + 2) / 5 + 1
  if month < 10 then ⟨year, month + 3, day⟩ else ⟨year + 1, month - 9, day⟩

theorem ofDayNumber_eq (number : Int) : ∃ (cycle : Int) (position : CycleDay),
    number + 719468 = 146097 * cycle + position.number ∧
      ofDayNumber number = ofMarch (cycle * 400 + position.yearOfCycle) position.day := by
  have low := Int.emod_nonneg (number + 719468) (show (146097 : Int) ≠ 0 by decide)
  have high := Int.emod_lt_of_pos (number + 719468) (show (0 : Int) < 146097 by decide)
  have whole := Int.mul_ediv_add_emod (number + 719468) 146097
  rcases @CycleDay.exists_number ((number + 719468) % 146097).toNat (by omega)
    with ⟨position, same⟩
  refine ⟨(number + 719468) / 146097, position, by omega, ?_⟩
  have year := position.yearOfCycle_eq
  have day := position.yearStart_eq
  simp only [ofDayNumber, ofMarch]
  rw [← same, year]
  rw [show position.number - (365 * position.yearOfCycle + position.yearOfCycle / 4 -
    position.yearOfCycle / 100) = position.day by omega]

theorem dayNumber_ofMarch (year : Int) {dayOfYear : Nat} (within : dayOfYear ≤ 365) :
    (ofMarch year dayOfYear).dayNumber =
      365 * year + year / 4 - year / 100 + year / 400 + dayOfYear - 719468 := by
  have started : (153 * ((5 * dayOfYear + 2) / 153) + 2) / 5 ≤ dayOfYear := by omega
  have last : (5 * dayOfYear + 2) / 153 ≤ 11 := by omega
  simp only [ofMarch]
  generalize (5 * dayOfYear + 2) / 153 = month at started last ⊢
  split
  · next beforeJanuary =>
      have late : ¬ month + 3 ≤ 2 := by omega
      simp only [dayNumber, late, if_false]
      omega
  · next fromJanuary =>
      have early : month - 9 ≤ 2 := by omega
      simp only [dayNumber, early, if_true]
      rw [show month - 9 + 9 = month by omega]
      omega

theorem isValid_ofMarch {year : Int} {dayOfYear : Nat} (within : dayOfYear ≤ 365)
    (leap : dayOfYear = 365 → isLeapYear (year + 1) = true) :
    (ofMarch year dayOfYear).isValid = true := by
  rw [isLeapYear_iff] at leap
  have low : 153 * ((5 * dayOfYear + 2) / 153) ≤ 5 * dayOfYear + 2 := by omega
  have high : 5 * dayOfYear + 2 < 153 * ((5 * dayOfYear + 2) / 153) + 153 := by omega
  simp only [ofMarch]
  generalize (5 * dayOfYear + 2) / 153 = month at low high ⊢
  obtain february | other := Decidable.em (month = 11)
  · subst february
    simp only [isValid, Nat.reduceLT, if_false, Nat.reduceSub, monthLength_two, Bool.and_eq_true,
      decide_eq_true_eq]
    split <;> omega
  · have last : month ≤ 10 := by omega
    interval_cases month <;> simp [isValid, monthLength] <;> omega

theorem isValid_ofDayNumber (number : Int) : (ofDayNumber number).isValid = true := by
  rcases ofDayNumber_eq number with ⟨cycle, position, _, same⟩
  rw [same]
  apply isValid_ofMarch position.day_le
  intro last
  rcases position.leap last with ⟨lastYear, lastQuadrennium⟩
  have century := position.century_le
  have quadrennium := position.quadrennium_le
  rw [isLeapYear_iff, CycleDay.yearOfCycle]
  omega

theorem dayNumber_ofDayNumber (number : Int) : (ofDayNumber number).dayNumber = number := by
  rcases ofDayNumber_eq number with ⟨cycle, position, counted, same⟩
  have day := position.yearStart_eq
  have fits : position.yearOfCycle ≤ 399 := by
    have century := position.century_le
    have quadrennium := position.quadrennium_le
    have year := position.year_le
    simp only [CycleDay.yearOfCycle]
    omega
  rw [same, dayNumber_ofMarch _ position.day_le]
  omega

end Date

end StrongAuth.Time
