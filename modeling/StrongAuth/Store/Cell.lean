import StrongAuth.Fault
import StrongAuth.Store.Numeral

/-! # Cells of a table

The values a database column can hold. A column has an affinity, by which it turns
some values into others on their way in: a text column writes numbers out, and an
integer column takes a text that is a numeral for its number. -/

namespace StrongAuth

inductive Cell
  | null
  | integer (value : Int64)
  /-- A number that is no integer, or too large for one. -/
  | real
  | text (value : String)
  | blob (bytes : List UInt8)
  deriving DecidableEq, Repr, Inhabited

/-- What a column does to the values it is given. -/
inductive Affinity
  | text
  | integer
  | blob
  deriving DecidableEq, Repr

namespace Cell

def ofNumeral : Store.Numeral → Cell
  | .integer value => .integer value
  | .real => .real

def store : Affinity → Cell → Cell
  | .text, .integer value => .text (Decimal.intText value.toInt)
  | .integer, .text value => ((Store.Numeral.read? value).map ofNumeral).getD (.text value)
  | _, cell => cell

/-! ## Typed reading -/

/-- A text, which has to be there. -/
def readText : Cell → Except StoreFault String
  | .text value => .ok value
  | _ => .error .database

def readOptionalText : Cell → Except StoreFault (Option String)
  | .null => .ok none
  | .text value => .ok (some value)
  | _ => .error .database

/-- An integer, which has to be there. -/
def readInteger : Cell → Except StoreFault Int64
  | .integer value => .ok value
  | _ => .error .database

/-- A truth value: every integer but zero is true. -/
def readBool (cell : Cell) : Except StoreFault Bool :=
  cell.readInteger.map (· ≠ 0)

/-- Bytes or nothing; a text is its bytes. -/
def readOptionalBytes : Cell → Except StoreFault (Option (List UInt8))
  | .null => .ok none
  | .blob bytes => .ok (some bytes)
  | .text value => .ok (some value.toUTF8.toList)
  | _ => .error .database

/-! ## Writing -/

def ofOption {α : Type} (write : α → Cell) : Option α → Cell
  | none => .null
  | some value => write value

def ofBool (value : Bool) : Cell :=
  .integer (if value then 1 else 0)

/-- The order of texts; a value that is no text comes first. -/
def textOf : Cell → String
  | .text value => value
  | _ => ""

end Cell

end StrongAuth
