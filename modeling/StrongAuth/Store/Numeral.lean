import StrongAuth.Text.Decimal

/-! # Numerals in tables

An integer column takes a text that is a numeral for its number. Whole digits are taken
exactly. A numeral with a point or an exponent goes through double precision: its leading
digits are scaled by tenths, each held as a pair of doubles, and what comes out counts
as an integer if it has no fraction. -/

namespace StrongAuth.Store

/-! ## Doubles in pairs -/

/-- A number as the sum of two doubles, the second of which is far smaller. -/
structure Pair where
  lead : Float
  rest : Float

namespace Pair

/-- A double without the lower half of its digits. -/
def upper (number : Float) : Float :=
  Float.ofBits (number.toBits &&& 0xFFFFFFFFFC000000)

/-- The product of two pairs. The products of the halves are exact, so that what the
leading product loses goes to the rest. -/
def mul (left right : Pair) : Pair :=
  let leftUpper := upper left.lead
  let leftLower := left.lead - leftUpper
  let rightUpper := upper right.lead
  let rightLower := right.lead - rightUpper
  let product := leftUpper * rightUpper
  let cross := leftUpper * rightLower + leftLower * rightUpper
  let sum := product + cross
  let lost := product - sum + cross + leftLower * rightLower
  let lost := left.lead * right.rest + left.rest * right.lead + lost
  let lead := sum + lost
  ⟨lead, sum - lead + lost⟩

def tenth : Pair := ⟨1.0e-1, -5.5511151231257827021e-18⟩

def tenthToTen : Pair := ⟨1.0e-10, -3.6432197315497741579e-27⟩

def tenthToHundred : Pair := ⟨1.0e-100, -1.99918998026028836196e-117⟩

def scaleDown (power : Nat) (pair : Pair) : Pair :=
  let byHundreds := Nat.repeat (mul · tenthToHundred) (power / 100) pair
  let byTens := Nat.repeat (mul · tenthToTen) (power % 100 / 10) byHundreds
  Nat.repeat (mul · tenth) (power % 10) byTens

end Pair

/-- The magnitude of a double, if it is finite and has no fraction. -/
def wholeOf? (number : Float) : Option Nat :=
  let bits := number.toBits.toNat % Nat.pow 2 63
  let exponent := bits / Nat.pow 2 52
  let fraction := bits % Nat.pow 2 52
  if exponent = 0 then if fraction = 0 then some 0 else none
  else if exponent = 2047 then none
  else
    let mantissa := Nat.pow 2 52 + fraction
    if 1075 ≤ exponent then some (mantissa * Nat.pow 2 (exponent - 1075))
    else
      let unit := Nat.pow 2 (1075 - exponent)
      if mantissa % unit = 0 then some (mantissa / unit) else none

def Pair.ofNat (number : Nat) : Pair :=
  let lead := number.toUInt64.toFloat
  let taken := (wholeOf? lead).getD 0
  let rest :=
    if taken ≤ number then (number - taken).toUInt64.toFloat
    else -(taken - number).toUInt64.toFloat
  ⟨lead, rest⟩

/-! ## Leading digits -/

/-- From here on a number takes no further digit. -/
def digitLimit : Nat := (Nat.pow 2 64 - 10) / 10

/-- Reads digits onto `total` up to the limit, and counts the digits left. -/
def leadingDigits : (total : Nat) → List Char → Nat × Nat
  | total, [] => (total, 0)
  | total, digit :: digits =>
      if total < digitLimit then leadingDigits (total * 10 + Decimal.digitValue digit) digits
      else (total, digits.length + 1)

/-- The value of the digits of an exponent; beyond ten thousand, only that. -/
def exponentValue (digits : List Char) : Nat :=
  digits.foldl (fun total digit =>
    if total < 10000 then total * 10 + Decimal.digitValue digit else 10000) 0

/-- `significand * 10 ^ exponent`, if it fits sixty-four bits. -/
def scaleUp? : (exponent significand : Nat) → Option Nat
  | 0, significand => some significand
  | exponent + 1, significand =>
      if significand < (Nat.pow 2 64 - 1) / 10 then scaleUp? exponent (significand * 10) else none

/-- Takes zeros off the end of a significand, at most `power` of them, and says how many
powers of ten remain to divide by. -/
def dropZeros : (power significand : Nat) → Nat × Nat
  | 0, significand => (significand, 0)
  | power + 1, significand =>
      if significand % 10 = 0 then dropZeros power (significand / 10) else (significand, power + 1)

/-- `significand * 10 ^ exponent` in double precision, unless it is so great that its digits
do not fit sixty-four bits. -/
def evaluate? (significand : Nat) (exponent : Int) : Option Float :=
  if significand = 0 then some 0
  else if 0 ≤ exponent then
    (scaleUp? exponent.toNat significand).map fun whole => whole.toUInt64.toFloat
  else
    let (significand, power) := dropZeros exponent.natAbs significand
    if power = 0 then some significand.toUInt64.toFloat
    else
      let pair := (Pair.ofNat significand).scaleDown power
      some (pair.lead + pair.rest)

/-! ## Numerals -/

/-- What a text that is a numeral stands for in an integer column. -/
inductive Numeral
  | integer (value : Int64)
  /-- A number that is no integer, or too large for one. -/
  | real
  deriving DecidableEq, Repr

namespace Numeral

/-- An integer of sixty-four bits by its sign and its magnitude. -/
def ofMagnitude (negative : Bool) (magnitude : Nat) : Numeral :=
  let value : Int := if negative then -(magnitude : Int) else magnitude
  if -9223372036854775808 ≤ value ∧ value ≤ 9223372036854775807 then
    .integer (.ofInt value)
  else .real

/-- The characters that may surround a numeral. -/
def isSpace (char : Char) : Bool :=
  char.toNat == 32 || (9 ≤ char.toNat && char.toNat ≤ 13)

/-- A sign, and what follows it. -/
def takeSign : List Char → Bool × List Char
  | '-' :: chars => (true, chars)
  | '+' :: chars => (false, chars)
  | chars => (false, chars)

/-- The exponent at the end of a numeral, which may be left out. -/
def readExponent : List Char → Option (Option Int)
  | [] => some none
  | mark :: chars =>
      if mark = 'e' ∨ mark = 'E' then
        let (negative, digits) := takeSign chars
        if digits.isEmpty || !digits.all Decimal.isDigit then none
        else
          let magnitude : Int := exponentValue digits
          some (some (if negative then -magnitude else magnitude))
      else none

/-- The number of whole digits, the digits behind the point, if there is one, and an
exponent. A double is an integer if it has no fraction and is neither the least nor beyond
the greatest integer of sixty-four bits. -/
def ofParts (negative : Bool) (whole : List Char) (places : Option (List Char))
    (exponent : Option Int) : Numeral :=
  match places, exponent with
  | none, none => ofMagnitude negative (Decimal.value whole)
  | _, _ =>
      let behind := places.getD []
      let (significand, dropped) := leadingDigits 0 whole
      let (significand, left) := leadingDigits significand behind
      let scale : Int := dropped - (behind.length - left : Nat) + exponent.getD 0
      match (evaluate? significand scale).bind wholeOf? with
      | some magnitude =>
          if magnitude < 9223372036854775808 then ofMagnitude negative magnitude else .real
      | none => .real

/-- The number a text denotes, if it is a numeral between spaces. -/
def read? (text : String) : Option Numeral := do
  let inner := ((text.toList.dropWhile isSpace).reverse.dropWhile isSpace).reverse
  let (negative, chars) := takeSign inner
  let whole := chars.takeWhile Decimal.isDigit
  let rest := chars.drop whole.length
  let (places, rest) := match rest with
    | '.' :: rest => (some (rest.takeWhile Decimal.isDigit), rest.dropWhile Decimal.isDigit)
    | rest => (none, rest)
  if whole.isEmpty && (places.getD []).isEmpty then failure
  return ofParts negative whole places (← readExponent rest)

end Numeral

end StrongAuth.Store
