import StrongAuth.Text.Decimal
import StrongAuth.Text.Hexadecimal

/-! # JSON values

JSON without fractions, and its compact text. Members of an object keep their
order. Strings are written with the short escapes, the other control characters
as `\u00XX`, and everything else as it is. -/

namespace StrongAuth

/-- A JSON value whose numbers are integers. -/
inductive Json
  | null
  | bool (value : Bool)
  | number (value : Int)
  | text (value : String)
  | array (items : List Json)
  | object (members : List (String × Json))
  deriving Inhabited, Repr

namespace Json

def writeChar (char : Char) : List Char :=
  if char = '"' then ['\\', '"']
  else if char = '\\' then ['\\', '\\']
  else if char.toNat = 8 then ['\\', 'b']
  else if char.toNat = 9 then ['\\', 't']
  else if char.toNat = 10 then ['\\', 'n']
  else if char.toNat = 12 then ['\\', 'f']
  else if char.toNat = 13 then ['\\', 'r']
  else if char.toNat < 32 then
    ['\\', 'u', '0', '0', Hexadecimal.lowerDigit (char.toNat / 16), Hexadecimal.lowerDigit (char.toNat % 16)]
  else [char]

def writeText (text : String) : List Char :=
  '"' :: (text.toList.flatMap writeChar ++ ['"'])

mutual

def write : Json → List Char
  | .null => "null".toList
  | .bool true => "true".toList
  | .bool false => "false".toList
  | .number value => Decimal.ofInt value
  | .text value => writeText value
  | .array [] => ['[', ']']
  | .array (item :: items) => '[' :: (write item ++ writeItems items)
  | .object [] => ['\x7b', '\x7d']
  | .object ((name, value) :: members) =>
      '\x7b' :: (writeText name ++ ':' :: (write value ++ writeMembers members))

/-- The items after the first and the closing bracket. -/
def writeItems : List Json → List Char
  | [] => [']']
  | item :: items => ',' :: (write item ++ writeItems items)

/-- The members after the first and the closing brace. -/
def writeMembers : List (String × Json) → List Char
  | [] => ['\x7d']
  | (name, value) :: members =>
      ',' :: (writeText name ++ ':' :: (write value ++ writeMembers members))

end

def compact (value : Json) : String :=
  String.ofList (write value)

/-- The value of an optional member: `null` if there is none. -/
def ofOption {α : Type} (encode : α → Json) : Option α → Json
  | none => .null
  | some value => encode value

def ofList {α : Type} (encode : α → Json) (values : List α) : Json :=
  .array (values.map encode)

/-- An object with more members behind its own. -/
def append (json : Json) (more : List (String × Json)) : Json :=
  match json with
  | .object members => .object (members ++ more)
  | other => other

end Json

end StrongAuth
