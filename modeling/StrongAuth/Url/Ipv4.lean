import StrongAuth.Text.Decimal
import StrongAuth.Text.Hexadecimal

/-! # Addresses of version four

A host whose last part is a number has to be an address: up to four numbers, decimal,
octal or hexadecimal, the last of which fills the remaining bytes. -/

namespace StrongAuth.Ipv4

/-- The number written in some base, if all characters are digits of it. -/
def readBase (base : Nat) (chars : List Char) : Option Nat :=
  chars.foldl (fun total char => do
    let total ← total
    let digit ← Hexadecimal.value? char
    if digit < base then some (total * base + digit) else none) (some 0)

/-- A number: hexadecimal behind `0x`, octal behind `0`, decimal otherwise. -/
def readNumber : List Char → Option Nat
  | [] => none
  | '0' :: 'x' :: digits => readBase 16 digits
  | '0' :: 'X' :: digits => readBase 16 digits
  | ['0'] => some 0
  | '0' :: digits => readBase 8 digits
  | digits => readBase 10 digits

/-- The parts between dots; a single dot at the end does not count. -/
def parts (host : List Char) : List (List Char) :=
  let parts := host.splitOn '.'
  if parts.getLast? = some [] then parts.dropLast else parts

def endsInNumber (host : List Char) : Bool :=
  match (parts host).getLast? with
  | none => false
  | some last =>
      (!last.isEmpty && last.all Decimal.isDigit) || (readNumber last).isSome

def ofNumbers (numbers : List Nat) : Option Nat :=
  match numbers.reverse with
  | [] => none
  | last :: before =>
      if 4 < numbers.length then none
      else if before.any (255 < ·) then none
      else if Nat.pow 256 (4 - before.length) ≤ last then none
      else
        let leading := before.reverse.foldl (fun total byte => total * 256 + byte) 0
        some (leading * Nat.pow 256 (4 - before.length) + last)

def read? (host : List Char) : Option Nat := do
  ofNumbers (← (parts host).mapM readNumber)

def write (address : Nat) : List Char :=
  Decimal.digits (address / 16777216) ++ '.' :: Decimal.digits (address / 65536 % 256) ++
    '.' :: Decimal.digits (address / 256 % 256) ++ '.' :: Decimal.digits (address % 256)

end StrongAuth.Ipv4
