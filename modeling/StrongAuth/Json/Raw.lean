import StrongAuth.Json.Value
import StrongAuth.Json.Numeral

/-! # JSON as it stands in a text

A text is read once into a tree that keeps its flaws: where the text breaks off or
goes wrong, the tree has a broken leaf or an open end. A reader of a type walks
the tree in the order of the text, and so reports a value of the wrong shape
before any flaw further right. A flaw may weigh differently on a value that is
read and on one that is passed over, and the tree keeps both verdicts. -/

namespace StrongAuth.Json

inductive Fault
  /-- It is well formed but not of the wanted shape. -/
  | data
  /-- It is no JSON. -/
  | malformed
  /-- It ends too early. -/
  | incomplete
  deriving DecidableEq, Repr

/-- A place where a value should stand and none can be read. -/
structure Break where
  /-- The fault for a reader of the value. -/
  reading : Fault
  /-- The fault for a reader that passes over the value. -/
  skipping : Fault
  /-- The character found there, if any. -/
  lead : Option Char
  deriving DecidableEq, Repr

inductive Key
  /-- A string; its content is a fault if its surrogates are not paired. -/
  | text (content : Except Fault String)
  /-- No complete string stands there: the faults for a reader of the object and for a
  reader that passes over it. -/
  | absent (reading skipping : Fault)
  deriving Repr

/-- A JSON value as it stands in a text, flaws included. -/
inductive Raw
  | null
  | bool (value : Bool)
  | number (numeral : Numeral)
  /-- A complete string; its content is a fault if its surrogates are not paired. -/
  | text (content : Except Fault String)
  /-- `ending` is the fault in place of the closing bracket. -/
  | array (items : List Raw) (ending : Option Fault)
  /-- `ending` is the fault in place of the closing brace. -/
  | object (members : List (Key × Raw)) (ending : Option Fault)
  | broken (place : Break)
  deriving Repr

instance : Inhabited Raw := ⟨.null⟩

def Raw.members : Raw → List (String × Raw)
  | .object members _ => members.filterMap fun member =>
      match member.1 with
      | .text (.ok name) => some (name, member.2)
      | _ => none
  | _ => []

def Raw.member? (name : String) (raw : Raw) : Option Raw :=
  raw.members.lookup name

/-! ## Strings -/

/-- A piece of a string: a character, or a UTF-16 unit written as four hexadecimal digits. -/
inductive Piece
  | char (value : Char)
  | unit (value : Nat)
  deriving DecidableEq, Repr

/-- The pieces of a string up to its closing quote and the text after it, or up to a flaw. -/
structure Scan where
  pieces : List Piece
  rest : Except Fault (List Char)
  deriving Repr

def shortEscape? (char : Char) : Option Char :=
  if char = '"' then some '"'
  else if char = '\\' then some '\\'
  else if char = '/' then some '/'
  else if char = 'b' then some (Char.ofNat 8)
  else if char = 'f' then some (Char.ofNat 12)
  else if char = 'n' then some (Char.ofNat 10)
  else if char = 'r' then some (Char.ofNat 13)
  else if char = 't' then some (Char.ofNat 9)
  else none

def unitValue? (first second third fourth : Char) : Option Nat := do
  let first ← Hexadecimal.value? first
  let second ← Hexadecimal.value? second
  let third ← Hexadecimal.value? third
  let fourth ← Hexadecimal.value? fourth
  return first * 4096 + second * 256 + third * 16 + fourth

/-- The fault of a unit escape without four hexadecimal digits: the text is incomplete if
fewer than four bytes are left of it. -/
def unitFault (chars : List Char) : Fault :=
  if (String.ofList chars).utf8ByteSize < 4 then .incomplete else .malformed

/-- The pieces of a string from behind its opening quote. -/
def scanText : List Char → Scan
  | [] => ⟨[], .error .incomplete⟩
  | char :: chars =>
      if char = '"' then ⟨[], .ok chars⟩
      else if char = '\\' then
        match chars with
        | [] => ⟨[], .error .incomplete⟩
        | 'u' :: first :: second :: third :: fourth :: rest =>
            match unitValue? first second third fourth with
            | some unit =>
                let scan := scanText rest
                { scan with pieces := .unit unit :: scan.pieces }
            | none => ⟨[], .error (unitFault (first :: second :: third :: fourth :: rest))⟩
        | escape :: rest =>
            match shortEscape? escape with
            | some char =>
                let scan := scanText rest
                { scan with pieces := .char char :: scan.pieces }
            | none => ⟨[], .error (if escape = 'u' then unitFault rest else .malformed)⟩
      else if char.toNat < 32 then ⟨[], .error .malformed⟩
      else
        let scan := scanText chars
        { scan with pieces := .char char :: scan.pieces }

/-- The characters of a string. A high surrogate takes the low surrogate right after it;
any other surrogate is a fault, and so is `ending`, if the pieces end in one. -/
def joinPieces (ending : Option Fault) : List Piece → Except Fault (List Char)
  | [] => match ending with
    | none => .ok []
    | some fault => .error fault
  | .char char :: rest => do return char :: (← joinPieces ending rest)
  | .unit unit :: rest =>
      if unit < 0xD800 ∨ 0xE000 ≤ unit then do
        return Char.ofNat unit :: (← joinPieces ending rest)
      else if 0xDC00 ≤ unit then .error .malformed
      else match rest with
        | .unit low :: rest =>
            if 0xDC00 ≤ low ∧ low < 0xE000 then do
              return Char.ofNat (0x10000 + (unit - 0xD800) * 0x400 + (low - 0xDC00)) ::
                (← joinPieces ending rest)
            else .error .malformed
        | .char _ :: _ => .error .malformed
        | [] => .error (ending.getD .malformed)

def Scan.content (scan : Scan) : Except Fault String :=
  let ending := match scan.rest with
    | .ok _ => none
    | .error fault => some fault
  (joinPieces ending scan.pieces).map String.ofList

/-! ## Numerals and words -/

/-- What was read from the front of a text: a value, and the text after it unless the text
breaks off inside the value. -/
structure Parsed where
  raw : Raw
  rest : Option (List Char)
  deriving Repr

def Parsed.broken (reading skipping : Fault) (lead : Option Char) : Parsed :=
  ⟨.broken ⟨reading, skipping, lead⟩, none⟩

/-- The fault where digits are missing: the text may end there, and whoever passes over
the numeral takes that as malformed. -/
def missingDigits (lead : Char) : List Char → Parsed
  | [] => .broken .incomplete .malformed (some lead)
  | _ :: _ => .broken .malformed .malformed (some lead)

/-- The exponent of a numeral, from behind its letter, and the whole numeral with it. -/
def readExponent (lead : Char) (numeral : Option Int → Numeral) (chars : List Char) : Parsed :=
  let (negative, chars) := match chars with
    | '+' :: rest => (false, rest)
    | '-' :: rest => (true, rest)
    | rest => (false, rest)
  let digits := chars.takeWhile Decimal.isDigit
  if digits.isEmpty then missingDigits lead chars
  else
    let magnitude : Int := Decimal.value digits
    ⟨.number (numeral (some (if negative then -magnitude else magnitude))),
      some (chars.drop digits.length)⟩

def readScale (lead : Char) (numeral : Option Int → Numeral) (chars : List Char) : Parsed :=
  match chars with
  | 'e' :: rest => readExponent lead numeral rest
  | 'E' :: rest => readExponent lead numeral rest
  | rest => ⟨.number (numeral none), some rest⟩

/-- A numeral from its first digit on. Only a single zero may stand in front. -/
def readDigits (lead : Char) (negative : Bool) (chars : List Char) : Parsed :=
  let whole := chars.takeWhile Decimal.isDigit
  let rest := chars.drop whole.length
  if whole.isEmpty then missingDigits lead chars
  else if whole.head? = some '0' ∧ 1 < whole.length then
    .broken .malformed .malformed (some lead)
  else match rest with
    | '.' :: rest =>
        let places := rest.takeWhile Decimal.isDigit
        if places.isEmpty then missingDigits lead rest
        else readScale lead (.ofParts negative whole (some places)) (rest.drop places.length)
    | rest => readScale lead (.ofParts negative whole none) rest

/-- One of the words `null`, `true` and `false`, from behind its first letter. -/
def readWord (lead : Char) (value : Raw) : (letters chars : List Char) → Parsed
  | [], chars => ⟨value, some chars⟩
  | _ :: _, [] => .broken .incomplete .incomplete (some lead)
  | letter :: letters, char :: chars =>
      if letter = char then readWord lead value letters chars
      else .broken .malformed .malformed (some lead)

/-- A value that is neither a string, an array nor an object. -/
def readScalar : List Char → Parsed
  | [] => .broken .incomplete .incomplete none
  | char :: chars =>
      if char = 'n' then readWord char .null "ull".toList chars
      else if char = 't' then readWord char (.bool true) "rue".toList chars
      else if char = 'f' then readWord char (.bool false) "alse".toList chars
      else if char = '-' then readDigits char true chars
      else if Decimal.isDigit char then readDigits char false (char :: chars)
      else .broken .malformed .malformed (some char)

/-! ## Values -/

/-- The four characters that may stand between the parts of a JSON text. -/
def isGap (char : Char) : Bool :=
  char == ' ' || char == '\n' || char == '\t' || char == '\r'

def skipGap (chars : List Char) : List Char :=
  chars.dropWhile isGap

def readText (chars : List Char) : Parsed :=
  let scan := scanText chars
  match scan.rest with
  | .ok rest => ⟨.text scan.content, some rest⟩
  | .error skipping =>
      let reading := match scan.content with
        | .ok _ => skipping
        | .error fault => fault
      .broken reading skipping (some '"')

def readKey (chars : List Char) : Key × Option (List Char) :=
  match chars with
  | [] => (.absent .incomplete .incomplete, none)
  | '"' :: rest =>
      let scan := scanText rest
      match scan.rest with
      | .ok rest => (.text scan.content, some rest)
      | .error skipping =>
          let reading := match scan.content with
            | .ok _ => skipping
            | .error fault => fault
          (.absent reading skipping, none)
  | _ => (.absent .malformed .malformed, none)

mutual

/-- Reads a value. Every step takes one unit of `fuel`; twice the length of the text is
enough. -/
def readValue : (fuel : Nat) → List Char → Parsed
  | 0, _ => .broken .incomplete .incomplete none
  | fuel + 1, chars =>
      match skipGap chars with
      | '"' :: rest => readText rest
      | '[' :: rest =>
          match skipGap rest with
          | [] => ⟨.array [] (some .incomplete), none⟩
          | ']' :: rest => ⟨.array [] none, some rest⟩
          | rest => readItems fuel [] rest
      | '\x7b' :: rest =>
          match skipGap rest with
          | [] => ⟨.object [] (some .incomplete), none⟩
          | '\x7d' :: rest => ⟨.object [] none, some rest⟩
          | rest => readMembers fuel [] rest
      | rest => readScalar rest

/-- Reads the items of an array from one item on; `before` holds those already read, the
last of them first. -/
def readItems : (fuel : Nat) → (before : List Raw) → List Char → Parsed
  | 0, before, _ => ⟨.array before.reverse (some .incomplete), none⟩
  | fuel + 1, before, chars =>
      let item := readValue fuel chars
      let items := item.raw :: before
      match item.rest with
      | none => ⟨.array items.reverse (some .incomplete), none⟩
      | some rest => match skipGap rest with
        | [] => ⟨.array items.reverse (some .incomplete), none⟩
        | ']' :: rest => ⟨.array items.reverse none, some rest⟩
        | ',' :: rest => readItems fuel items rest
        | _ => ⟨.array items.reverse (some .malformed), none⟩

/-- Reads the members of an object from one name on; `before` holds those already read,
the last of them first. -/
def readMembers : (fuel : Nat) → (before : List (Key × Raw)) → List Char → Parsed
  | 0, before, _ => ⟨.object before.reverse (some .incomplete), none⟩
  | fuel + 1, before, chars =>
      let (key, rest) := readKey (skipGap chars)
      let value := match rest with
        | none => Parsed.broken .incomplete .incomplete none
        | some rest => match skipGap rest with
          | [] => .broken .incomplete .incomplete none
          | ':' :: rest => readValue fuel rest
          | other :: _ => .broken .malformed .malformed (some other)
      let members := (key, value.raw) :: before
      match value.rest with
      | none => ⟨.object members.reverse (some .incomplete), none⟩
      | some rest => match skipGap rest with
        | [] => ⟨.object members.reverse (some .incomplete), none⟩
        | '\x7d' :: rest => ⟨.object members.reverse none, some rest⟩
        | ',' :: rest => readMembers fuel members rest
        | _ => ⟨.object members.reverse (some .malformed), none⟩

end

/-! ## Trees of written values -/

def Numeral.ofInt (value : Int) : Numeral :=
  .integer (value < 0) value.natAbs

mutual

def Raw.ofJson : Json → Raw
  | .null => .null
  | .bool value => .bool value
  | .number value => .number (.ofInt value)
  | .text value => .text (.ok value)
  | .array items => .array (ofItems items) none
  | .object members => .object (ofMembers members) none

def Raw.ofItems : List Json → List Raw
  | [] => []
  | item :: items => Raw.ofJson item :: Raw.ofItems items

def Raw.ofMembers : List (String × Json) → List (Key × Raw)
  | [] => []
  | (name, value) :: members => (.text (.ok name), Raw.ofJson value) :: Raw.ofMembers members

end

/-! ## Whole texts -/

/-- Reads a text up to the end of its first value. -/
def parse (text : String) : Parsed :=
  readValue (2 * text.length + 2) text.toList

end StrongAuth.Json
