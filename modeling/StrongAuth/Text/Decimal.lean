/-! # Decimal numerals

Natural numbers and integers as decimal text, digits with leading zeros up to a
fixed width, and the bounded unsigned reader of configuration values. Main
statement: the digits of a number evaluate to that number.
-/

namespace StrongAuth.Decimal

/-- The character of one decimal digit; the argument is taken modulo ten. -/
def digitChar (digit : Nat) : Char :=
  Char.ofNat (48 + digit % 10)

/-- The value of a decimal digit. Only the ten ASCII digits have one. -/
def digitValue? (char : Char) : Option Nat :=
  if 48 ≤ char.toNat ∧ char.toNat ≤ 57 then some (char.toNat - 48) else none

def isDigit (char : Char) : Bool :=
  (digitValue? char).isSome

/-- The value of a character read as a digit, zero for any other character. -/
def digitValue (char : Char) : Nat :=
  (digitValue? char).getD 0

/-- The digits of a number, most significant first, without leading zeros. -/
def digits (number : Nat) : List Char :=
  if number < 10 then [digitChar number]
  else digits (number / 10) ++ [digitChar number]
termination_by number

def value (numeral : List Char) : Nat :=
  numeral.foldl (fun total digit => total * 10 + digitValue digit) 0

/-- Exactly `width` digits: the number modulo a power of ten, zeros in front. -/
def fixed : (width : Nat) → (number : Nat) → List Char
  | 0, _ => []
  | width + 1, number => fixed width (number / 10) ++ [digitChar number]

/-- At least `width` digits, zeros in front. -/
def padded (width number : Nat) : List Char :=
  List.replicate (width - (digits number).length) '0' ++ digits number

/-- An integer with a minus sign in front of a negative one. -/
def ofInt : Int → List Char
  | .ofNat number => digits number
  | .negSucc predecessor => '-' :: digits (predecessor + 1)

def text (number : Nat) : String :=
  String.ofList (digits number)

def intText (number : Int) : String :=
  String.ofList (ofInt number)

/-! ## Laws -/

theorem digitValue?_digitChar (digit : Nat) :
    digitValue? (digitChar digit) = some (digit % 10) := by
  have table : ∀ small < 10, digitValue? (Char.ofNat (48 + small)) = some small := by decide
  exact table (digit % 10) (Nat.mod_lt _ (by decide))

theorem digitValue_digitChar (digit : Nat) : digitValue (digitChar digit) = digit % 10 := by
  simp [digitValue, digitValue?_digitChar]

theorem isDigit_digitChar (digit : Nat) : isDigit (digitChar digit) = true := by
  simp [isDigit, digitValue?_digitChar]

theorem isDigit_ascii {char : Char} (digit : isDigit char = true) : char.toNat < 128 := by
  rw [isDigit, digitValue?] at digit
  split at digit
  · omega
  · cases digit

theorem value_append_digit (numeral : List Char) (digit : Nat) :
    value (numeral ++ [digitChar digit]) = value numeral * 10 + digit % 10 := by
  simp [value, List.foldl_append, digitValue_digitChar]

theorem value_digits (number : Nat) : value (digits number) = number := by
  fun_induction digits number with
  | case1 number small =>
      simp [value, digitValue_digitChar, Nat.mod_eq_of_lt small]
  | case2 number _ induction =>
      rw [value_append_digit, induction]
      omega

theorem isDigit_of_mem_digits (number : Nat) :
    ∀ char ∈ digits number, isDigit char = true := by
  fun_induction digits number with
  | case1 number _ => simp [isDigit_digitChar]
  | case2 number _ induction =>
      intro char member
      rcases List.mem_append.mp member with member | member
      · exact induction char member
      · simp only [List.mem_singleton] at member
        exact member ▸ isDigit_digitChar number

theorem digits_ne_nil (number : Nat) : digits number ≠ [] := by
  rw [digits]
  split <;> simp

/-! ## Bounded unsigned numbers -/

inductive NumeralFault
  | empty
  | invalidDigit
  | tooLarge
  deriving DecidableEq, Repr

def NumeralFault.message : NumeralFault → String
  | .empty => "cannot parse integer from empty string"
  | .invalidDigit => "invalid digit found in string"
  | .tooLarge => "number too large to fit in target type"

/-- Reads digits from the left onto `total`. The first character that is no digit or that
carries the number past `limit` decides the fault. -/
def readDigits (limit : Nat) : (total : Nat) → List Char → Except NumeralFault Nat
  | total, [] => .ok total
  | total, char :: rest =>
      match digitValue? char with
      | none => .error .invalidDigit
      | some digit =>
          if limit < total * 10 + digit then .error .tooLarge
          else readDigits limit (total * 10 + digit) rest

/-- An unsigned decimal number of at most `limit`, with an optional leading plus sign. -/
def readUnsigned (limit : Nat) (text : String) : Except NumeralFault Nat :=
  match text.toList with
  | [] => .error .empty
  | ['+'] => .error .invalidDigit
  | '+' :: rest => readDigits limit 0 rest
  | chars => readDigits limit 0 chars

end StrongAuth.Decimal
