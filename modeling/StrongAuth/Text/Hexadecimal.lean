/-! # Hexadecimal digits -/

namespace StrongAuth.Hexadecimal

def upperDigit (number : Nat) : Char :=
  if number < 10 then Char.ofNat (48 + number) else Char.ofNat (55 + number)

def lowerDigit (number : Nat) : Char :=
  if number < 10 then Char.ofNat (48 + number) else Char.ofNat (87 + number)

def value? (char : Char) : Option Nat :=
  let code := char.toNat
  if 48 ≤ code ∧ code ≤ 57 then some (code - 48)
  else if 65 ≤ code ∧ code ≤ 70 then some (code - 55)
  else if 97 ≤ code ∧ code ≤ 102 then some (code - 87)
  else none

theorem value?_upperDigit {number : Nat} (small : number < 16) :
    value? (upperDigit number) = some number := by
  have table : ∀ digit < 16, value? (upperDigit digit) = some digit := by decide
  exact table number small

theorem value?_lowerDigit {number : Nat} (small : number < 16) :
    value? (lowerDigit number) = some number := by
  have table : ∀ digit < 16, value? (lowerDigit digit) = some digit := by decide
  exact table number small

end StrongAuth.Hexadecimal
