/-! # The proleptic Gregorian calendar

Dates and their day numbers. Day zero is 1970-01-01, and the calendar extends
without end in both directions. Years are counted from March inside the
conversions, so that the leap day is the last day of its year. -/

namespace StrongAuth.Time

/-- A calendar date. Months and days count from one. -/
structure Date where
  year : Int
  month : Nat
  day : Nat
  deriving DecidableEq, Repr

/-- Every fourth year is a leap year, but of the full centuries only every fourth. -/
def isLeapYear (year : Int) : Bool :=
  year % 4 == 0 && (year % 100 != 0 || year % 400 == 0)

/-- The number of days of a month; zero for a month outside the year. -/
def monthLength (year : Int) : Nat → Nat
  | 1 | 3 | 5 | 7 | 8 | 10 | 12 => 31
  | 4 | 6 | 9 | 11 => 30
  | 2 => if isLeapYear year then 29 else 28
  | _ => 0

namespace Date

def isValid (date : Date) : Bool :=
  1 ≤ date.day && date.day ≤ monthLength date.year date.month

def dayNumber (date : Date) : Int :=
  let early := date.month ≤ 2
  let year := if early then date.year - 1 else date.year
  let month := if early then date.month + 9 else date.month - 3
  365 * year + year / 4 - year / 100 + year / 400 +
    ((153 * month + 2) / 5 + date.day : Nat) - 719469

/-- The date with a given day number. A cycle of four hundred years has 146097 days. -/
def ofDayNumber (number : Int) : Date :=
  let shifted := number + 719468
  let cycle := shifted / 146097
  let dayOfCycle := (shifted % 146097).toNat
  let yearOfCycle :=
    (dayOfCycle - dayOfCycle / 1460 + dayOfCycle / 36524 - dayOfCycle / 146096) / 365
  let dayOfYear := dayOfCycle - (365 * yearOfCycle + yearOfCycle / 4 - yearOfCycle / 100)
  let month := (5 * dayOfYear + 2) / 153
  let day := dayOfYear - (153 * month + 2) / 5 + 1
  let year := cycle * 400 + yearOfCycle
  if month < 10 then ⟨year, month + 3, day⟩ else ⟨year + 1, month - 9, day⟩

end Date

/-- The epoch, a leap day, and the day before the year zero begins. -/
example : Date.dayNumber ⟨1970, 1, 1⟩ = 0 ∧ Date.ofDayNumber 19782 = ⟨2024, 2, 29⟩ ∧
    Date.ofDayNumber (Date.dayNumber ⟨0, 1, 1⟩ - 1) = ⟨-1, 12, 31⟩ := by decide

end StrongAuth.Time
