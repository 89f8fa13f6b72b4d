import StrongAuth.Time.Timestamp
import StrongAuth.Time.Fault
import StrongAuth.Text.Decimal
import StrongAuth.Text.Blank

/-! # Reading timestamps

Two readers of timestamp text. The strict one takes the fixed layout
`YYYY-MM-DDThh:mm:ss`, a fraction and an offset, and says why a text is refused.
The lenient one also takes blanks, short fields and signed years. Both take
second sixty, a lower case `t` or a space between date and time, a zone `Z` or
`z`, and more fraction digits than nine, of which the rest is dropped. -/

namespace StrongAuth.Time

open Decimal

/-- A reader takes characters from the front of a text and leaves the others. -/
abbrev Reader (α : Type) := List Char → Except TimeFault (α × List Char)

/-- A number of at least `least` and at most `most` digits. -/
def readNumber (least most : Nat) : Reader Nat := fun chars =>
  let numeral := (chars.take most).takeWhile isDigit
  if numeral.length < least then
    .error (if numeral.length = chars.length then .tooShort else .invalid)
  else .ok (value numeral, chars.drop numeral.length)

def readChar (expected : Char) : Reader Unit
  | [] => .error .tooShort
  | char :: rest => if char = expected then .ok ((), rest) else .error .invalid

def readDateEnd : Reader Unit
  | [] => .error .tooShort
  | char :: rest =>
      if char = 'T' ∨ char = 't' ∨ char = ' ' then .ok ((), rest) else .error .invalid

/-- The nanoseconds of an optional fraction. Nine digits count and the others are dropped. -/
def readFraction : Reader Nat
  | '.' :: chars => do
      let (numeral, _) ← readNumber 1 9 chars
      let width := ((chars.take 9).takeWhile isDigit).length
      return (numeral * Nat.pow 10 (9 - width), chars.dropWhile isDigit)
  | chars => .ok (0, chars)

/-- Two digits of an offset. A single ASCII character in their place is too little, a
single other character is two wrong ones. -/
def readPair : Reader Nat
  | [] => .error .tooShort
  | [char] => .error (if char.toNat < 128 then .tooShort else .invalid)
  | tens :: units :: rest =>
      match digitValue? tens, digitValue? units with
      | some upper, some lower => .ok (upper * 10 + lower, rest)
      | _, _ => .error .invalid

/-- The sign of an offset: plus, hyphen or the minus sign U+2212. -/
def readSign : Reader Int
  | [] => .error .tooShort
  | char :: rest =>
      if char = '+' then .ok (1, rest)
      else if char = '-' ∨ char.toNat = 0x2212 then .ok (-1, rest)
      else .error .invalid

/-- The seconds by which a zone is ahead of UTC. `separator` reads what stands between
the hours and the minutes. -/
def readOffset (separator : Reader Unit) : Reader Int
  | 'Z' :: rest => .ok (0, rest)
  | 'z' :: rest => .ok (0, rest)
  | chars => do
      let (sign, chars) ← readSign chars
      let (hours, chars) ← readPair chars
      let (_, chars) ← separator chars
      let (minutes, chars) ← readPair chars
      if 60 ≤ minutes then .error .outOfRange
      else return (sign * (hours * 3600 + minutes * 60 : Nat), chars)

/-! ## The strict reader -/

def readTwo : Reader Nat := readNumber 2 2

/-- Reads the fixed layout. The first fault from the left decides, except that a text of
fewer than nineteen bytes is too short whatever it holds and that an offset of a day or
more is refused only where nothing follows it. -/
def readStrict (text : String) : Except TimeFault Timestamp :=
  if text.utf8ByteSize < 19 then .error .tooShort
  else do
    let (year, chars) ← readNumber 4 4 text.toList
    let (_, chars) ← readChar '-' chars
    let (month, chars) ← readTwo chars
    let (_, chars) ← readChar '-' chars
    let (day, chars) ← readTwo chars
    let date : Date := ⟨year, month, day⟩
    if !date.isValid then throw .outOfRange
    let (_, chars) ← readDateEnd chars
    let (hour, chars) ← readTwo chars
    let (_, chars) ← readChar ':' chars
    let (minute, chars) ← readTwo chars
    let (_, chars) ← readChar ':' chars
    let (second, chars) ← readTwo chars
    let (nano, chars) ← readFraction chars
    let clock : Clock := ⟨date, hour, minute, second, nano⟩
    if !clock.isValid then throw .outOfRange
    let (offset, chars) ← readOffset (readChar ':') chars
    if !chars.isEmpty then throw .trailing
    if 86400 ≤ offset.natAbs then throw .outOfRange
    match clock.instant? offset with
    | some instant => return instant
    | none => throw .outOfRange

/-! ## The lenient reader -/

/-- A year: up to four digits, or a sign and any number of digits. -/
def readYear : Reader Int := fun chars =>
  match Text.trimStart chars with
  | '-' :: rest => do
      let (year, rest) ← readNumber 1 rest.length rest
      return (-(year : Int), rest)
  | '+' :: rest => do
      let (year, rest) ← readNumber 1 rest.length rest
      return ((year : Int), rest)
  | rest => do
      let (year, rest) ← readNumber 1 4 rest
      return ((year : Int), rest)

def readLoose : Reader Nat := fun chars => readNumber 1 2 (Text.trimStart chars)

def readLooseChar (expected : Char) : Reader Unit := fun chars =>
  readChar expected (Text.trimStart chars)

def readColons : Reader Unit := fun chars =>
  .ok ((), chars.dropWhile fun char => char == ':' || Text.isBlank char)

/-- A zone after blanks: the letters UTC in any case, or an offset. -/
def readZone : Reader Int := fun chars =>
  match Text.trimStart chars with
  | first :: second :: third :: rest =>
      if [first, second, third].map Char.toLower = ['u', 't', 'c'] then .ok (0, rest)
      else readOffset readColons (first :: second :: third :: rest)
  | rest => readOffset readColons rest

def readLenient (text : String) : Except TimeFault Timestamp := do
  let (year, chars) ← readYear text.toList
  let (_, chars) ← readLooseChar '-' chars
  let (month, chars) ← readLoose chars
  let (_, chars) ← readLooseChar '-' chars
  let (day, chars) ← readLoose chars
  let (_, chars) ← readDateEnd chars
  let (hour, chars) ← readLoose chars
  let (_, chars) ← readLooseChar ':' chars
  let (minute, chars) ← readLoose chars
  let (_, chars) ← readLooseChar ':' chars
  let (second, chars) ← readLoose chars
  let (nano, chars) ← readFraction chars
  let (offset, chars) ← readZone chars
  if !(Text.trimStart chars).isEmpty then throw .trailing
  if 86400 ≤ offset.natAbs then throw .outOfRange
  match Clock.instant? ⟨⟨year, month, day⟩, hour, minute, second, nano⟩ offset with
  | some instant => return instant
  | none => throw .outOfRange

end StrongAuth.Time
