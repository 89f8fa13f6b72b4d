import StrongAuth.Time.Calendar

/-! # Timestamps

A timestamp is an instant in UTC to the nanosecond, leap seconds included: inside
a leap second the count of seconds stays at the second before it, and the
nanoseconds run on past one thousand million. Dates reach about 262 000 years to
both sides; arithmetic that leaves this range has no result. -/

namespace StrongAuth.Time

/-- The first second of the year -262143. -/
def earliestSecond : Int := -8334601228800

/-- The last second of the year 262142. -/
def latestSecond : Int := 8210266876799

example : earliestSecond = Date.dayNumber ⟨-262143, 1, 1⟩ * 86400 ∧
    latestSecond = Date.dayNumber ⟨262142, 12, 31⟩ * 86400 + 86399 := by decide

/-- An instant: `second` counts from 1970-01-01T00:00:00 without leap seconds, and
`nano` of one thousand million and above lies in the leap second after `second`,
which only the last second of a minute has. -/
structure Timestamp where
  second : Int
  nano : Nat
  earliest_le : earliestSecond ≤ second
  le_latest : second ≤ latestSecond
  nano_lt : nano < 2000000000
  leap_at_minute_end : 1000000000 ≤ nano → second % 60 = 59
  deriving DecidableEq, Repr

namespace Timestamp

def ofCounts? (second : Int) (nano : Nat) : Option Timestamp :=
  if valid : earliestSecond ≤ second ∧ second ≤ latestSecond ∧ nano < 2000000000 ∧
      (1000000000 ≤ nano → second % 60 = 59) then
    some ⟨second, nano, valid.1, valid.2.1, valid.2.2.1, valid.2.2.2⟩
  else none

def epoch : Timestamp :=
  ⟨0, 0, by decide, by decide, by decide, by decide⟩

instance : Inhabited Timestamp := ⟨epoch⟩

/-- Chronological order: by seconds, then by nanoseconds. -/
def before (left right : Timestamp) : Bool :=
  left.second < right.second || (left.second == right.second && left.nano < right.nano)

instance : LT Timestamp := ⟨fun left right => left.before right = true⟩

instance (left right : Timestamp) : Decidable (left < right) :=
  inferInstanceAs (Decidable (left.before right = true))

/-- The timestamp `nanos` nanoseconds later, or earlier for a negative number, if the
calendar reaches it. A leap second is not counted: leaving it lands where leaving the
second before it would. -/
def shift? (start : Timestamp) (nanos : Int) : Option Timestamp :=
  let seconds := nanos.tdiv 1000000000
  let fraction := nanos.tmod 1000000000
  let leaping := 1000000000 ≤ start.nano
  if leaping && seconds == 0 && start.nano + fraction < 2000000000 then
    ofCounts? start.second (start.nano + fraction).toNat
  else
    let forward := seconds > 0 || (seconds == 0 && fraction > 0)
    let base := if leaping && !forward then start.second + 1 else start.second
    let nano := (if leaping then start.nano - 1000000000 else start.nano : Int) + fraction
    ofCounts? (base + seconds + nano / 1000000000) (nano % 1000000000).toNat

/-- The timestamp `seconds` seconds later, if the calendar reaches it. -/
def shiftSeconds? (start : Timestamp) (seconds : Int) : Option Timestamp :=
  start.shift? (seconds * 1000000000)

/-- The timestamp with its nanoseconds rounded down to whole microseconds. -/
def truncateMicros (exact : Timestamp) : Timestamp :=
  { exact with
    nano := exact.nano / 1000 * 1000
    nano_lt := by have := exact.nano_lt; omega
    leap_at_minute_end := fun leaping =>
      exact.leap_at_minute_end (by omega) }

end Timestamp

/-! ## Clock readings -/

/-- A date with a time of day. Second sixty is a leap second. -/
structure Clock where
  date : Date
  hour : Nat
  minute : Nat
  second : Nat
  nano : Nat
  deriving DecidableEq, Repr

def Timestamp.clock (instant : Timestamp) : Clock :=
  let secondOfDay := (instant.second % 86400).toNat
  let leaping := 1000000000 ≤ instant.nano
  { date := Date.ofDayNumber (instant.second / 86400)
    hour := secondOfDay / 3600
    minute := secondOfDay / 60 % 60
    second := secondOfDay % 60 + if leaping then 1 else 0
    nano := if leaping then instant.nano - 1000000000 else instant.nano }

/-- Whether a clock can show this: a date of the calendar within reach and a time of
day, with second sixty at the end of any minute. -/
def Clock.isValid (clock : Clock) : Bool :=
  clock.date.isValid && -262143 ≤ clock.date.year && clock.date.year ≤ 262142 &&
    clock.hour ≤ 23 && clock.minute ≤ 59 && clock.second ≤ 60 && clock.nano < 1000000000

/-- The instant at which a clock `offset` seconds ahead of UTC shows this. -/
def Clock.instant? (clock : Clock) (offset : Int) : Option Timestamp :=
  if clock.isValid then
    let leaping := clock.second == 60
    let second := if leaping then 59 else clock.second
    let nano := if leaping then clock.nano + 1000000000 else clock.nano
    Timestamp.ofCounts?
      (clock.date.dayNumber * 86400 + (clock.hour * 3600 + clock.minute * 60 + second : Nat) -
        offset) nano
  else none

end StrongAuth.Time
