import StrongAuth.Text.Hexadecimal

/-! # Tables of code points

What is known of many code points, written down as a text. The entries of a table have
blanks or line ends between them and their numbers are hexadecimal. An entry names a
code point, or the first and the last one of a range, and may give them an image. -/

namespace StrongAuth

inductive CodeImage
  /-- All of them stand for the same code points. -/
  | constant (codes : List Nat)
  /-- The first one stands for these code points, and the others for as many further on. -/
  | shifted (codes : List Nat)
  /-- Every other one, from the first on, stands for the next; the rest for themselves. -/
  | following
  deriving DecidableEq, Repr

structure CodeEntry where
  first : Nat
  last : Nat
  image : CodeImage
  deriving DecidableEq, Repr

namespace CodeEntry

def covers (entry : CodeEntry) (code : Nat) : Bool :=
  entry.first ≤ code && code ≤ entry.last

/-- What a code point stands for by an entry that covers it. -/
def imageOf (entry : CodeEntry) (code : Nat) : List Nat :=
  match entry.image with
  | .constant codes => codes
  | .shifted codes => codes.map (· + (code - entry.first))
  | .following => if (code - entry.first) % 2 = 0 then [code + 1] else [code]

def number (digits : List Char) : Nat :=
  digits.foldl (fun total digit => total * 16 + (Hexadecimal.value? digit).getD 0) 0

def numbers (chars : List Char) : List Nat :=
  (chars.splitOnP (· == '.')).map number

/-- Reads an entry. `A` or `A-B` may be followed by `=` and a constant image or by `:` and a
shifted one; in `A~B` every other code point stands for the next. -/
def read (chars : List Char) : CodeEntry :=
  let key := chars.takeWhile fun char => char != ':' && char != '='
  let ends := (key.splitOnP fun char => char == '-' || char == '~').map number
  let image := match chars.drop key.length with
    | '=' :: codes => .constant (numbers codes)
    | ':' :: codes => .shifted (numbers codes)
    | _ => if key.contains '~' then .following else .constant []
  ⟨ends.head?.getD 0, ends.getLast?.getD 0, image⟩

end CodeEntry

/-- Entries in the order in which they are looked at. -/
abbrev CodeTable := List CodeEntry

namespace CodeTable

def ofText (text : String) : CodeTable :=
  let words := text.toList.splitOnP fun char => char == ' ' || char == '\n'
  (words.filter fun word => !word.isEmpty).map CodeEntry.read

def contains (table : CodeTable) (code : Nat) : Bool :=
  table.any fun entry => entry.covers code

/-- What a code point stands for by the first entry that covers it. -/
def find? (table : CodeTable) (code : Nat) : Option (List Nat) :=
  (List.find? (fun entry => entry.covers code) table).map fun entry => entry.imageOf code

/-- The first code point that stands for the given ones. -/
def source? (table : CodeTable) (codes : List Nat) : Option Nat :=
  (List.find? (fun entry => entry.imageOf entry.first == codes) table).map CodeEntry.first

end CodeTable

end StrongAuth
