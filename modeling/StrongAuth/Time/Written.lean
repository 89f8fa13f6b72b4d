import StrongAuth.Time.Timestamp
import StrongAuth.Text.Decimal

/-! # Written timestamps

Timestamps as text in UTC, `YYYY-MM-DDThh:mm:ss` with a fraction and a zone. Years
from 0 to 9999 have four digits; other years carry a sign and at least four. -/

namespace StrongAuth.Time

open Decimal

inductive FractionStyle
  /-- None, three, six or nine: the fewest that lose nothing. -/
  | shortest
  | millis
  | micros
  deriving DecidableEq, Repr

/-- A year with four digits, or with a sign outside the years 0 to 9999. -/
def writeYear (year : Int) : List Char :=
  if 0 ≤ year ∧ year ≤ 9999 then fixed 4 year.toNat
  else (if year < 0 then '-' else '+') :: padded 4 year.natAbs

/-- The fraction of a second with its decimal point, empty if there are no digits. -/
def writeFraction (nano : Nat) : FractionStyle → List Char
  | .millis => '.' :: fixed 3 (nano / 1000000)
  | .micros => '.' :: fixed 6 (nano / 1000)
  | .shortest =>
      if nano = 0 then []
      else if nano % 1000000 = 0 then '.' :: fixed 3 (nano / 1000000)
      else if nano % 1000 = 0 then '.' :: fixed 6 (nano / 1000)
      else '.' :: fixed 9 nano

def Clock.write (clock : Clock) (style : FractionStyle) : List Char :=
  writeYear clock.date.year ++ '-' :: fixed 2 clock.date.month ++ '-' :: fixed 2 clock.date.day ++
    'T' :: fixed 2 clock.hour ++ ':' :: fixed 2 clock.minute ++ ':' :: fixed 2 clock.second ++
    writeFraction clock.nano style

namespace Timestamp

/-- The timestamp with the shortest exact fraction and zone `Z`. -/
def text (instant : Timestamp) : String :=
  String.ofList (instant.clock.write .shortest ++ ['Z'])

/-- The timestamp with the shortest exact fraction and zone `+00:00`. -/
def offsetText (instant : Timestamp) : String :=
  String.ofList (instant.clock.write .shortest ++ "+00:00".toList)

/-- The timestamp with exactly three fraction digits, cut off, and zone `Z`. -/
def millisText (instant : Timestamp) : String :=
  String.ofList (instant.clock.write .millis ++ ['Z'])

/-- The timestamp with exactly six fraction digits, cut off, and zone `Z`. In the years
0 to 9999 all such texts have one width, and their order as text is chronological. -/
def microsText (instant : Timestamp) : String :=
  String.ofList (instant.clock.write .micros ++ ['Z'])

end Timestamp

end StrongAuth.Time
