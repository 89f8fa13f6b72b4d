import StrongAuth.Text.Decimal

/-! # JSON numerals

A numeral is read as an integer if it has neither fraction nor exponent and fits
sixty-four bits, and as a floating-point number otherwise. Floating-point values never
fit a field of this library, so only their being finite matters. That is judged on the
product that double precision gives: the leading digits, rounded, times a rounded power
of ten. -/

namespace StrongAuth.Json

/-- A numeral as it stands in a text. -/
inductive Numeral
  /-- Digits, with or without a minus sign. -/
  | integer (negative : Bool) (magnitude : Nat)
  /-- A fraction or an exponent follows the digits, or they are too many. -/
  | real (finite : Bool)
  deriving DecidableEq, Repr

/-! ## Finite numbers -/

/-- The number of at most fifty-three binary digits and zeros behind them that is nearest
to a number; of two, the one whose last digit is even. -/
def nearest (number : Nat) : Nat :=
  let unit := Nat.pow 2 (number.log2 + 1 - 53)
  let below := number / unit
  let rest := number % unit
  if 2 * rest < unit ∨ (2 * rest = unit ∧ below % 2 = 0) then below * unit
  else (below + 1) * unit

/-- The least magnitude that rounds to infinity in double precision. -/
def overflowBound : Nat := Nat.pow 2 1024 - Nat.pow 2 970

/-- Whether `significand * 10 ^ exponent` is finite in double precision. -/
def isFinite (significand : Nat) (exponent : Int) : Bool :=
  significand = 0 || exponent < 0 ||
    (exponent ≤ 308 && nearest significand * nearest (Nat.pow 10 exponent.toNat) < overflowBound)

/-! ## Leading digits -/

/-- Reads digits onto `total` as long as the number fits sixty-four bits, and counts the
digits from the first one that does not. -/
def leading : (total : Nat) → List Char → Nat × Nat
  | total, [] => (total, 0)
  | total, digit :: digits =>
      let next := total * 10 + Decimal.digitValue digit
      if next < Nat.pow 2 64 then leading next digits else (total, digits.length + 1)

namespace Numeral

/-- The numeral of whole digits, the digits behind the point, if there is one, and an
exponent. Digits that no longer fit only count towards the exponent, those behind the
point not at all. -/
def ofParts (negative : Bool) (whole : List Char) (places : Option (List Char))
    (exponent : Option Int) : Numeral :=
  let (significand, dropped) := leading 0 whole
  match places, exponent, dropped with
  | none, none, 0 => .integer negative significand
  | _, _, _ =>
      let behind := places.getD []
      let (significand, left) := leading significand behind
      .real (isFinite significand (dropped - (behind.length - left : Nat) + exponent.getD 0))

/-- Whether the numeral is finite in double precision. -/
def finite : Numeral → Bool
  | .integer _ _ => true
  | .real finite => finite

/-- The integer a numeral denotes. Minus zero is a floating-point number. -/
def int? : Numeral → Option Int
  | .integer false magnitude => some magnitude
  | .integer true 0 => none
  | .integer true magnitude => some (-(magnitude : Int))
  | .real _ => none

end Numeral

end StrongAuth.Json
