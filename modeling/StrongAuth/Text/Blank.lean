/-! # Blank characters

The Unicode property White_Space, and text made of nothing else. -/

namespace StrongAuth.Text

/-- The ranges of code points with the property White_Space, both ends included. -/
def blankRanges : List (Nat × Nat) :=
  [(0x09, 0x0D), (0x20, 0x20), (0x85, 0x85), (0xA0, 0xA0), (0x1680, 0x1680),
    (0x2000, 0x200A), (0x2028, 0x2029), (0x202F, 0x202F), (0x205F, 0x205F),
    (0x3000, 0x3000)]

def isBlank (char : Char) : Bool :=
  blankRanges.any fun range => range.1 ≤ char.toNat && char.toNat ≤ range.2

/-- Whether a text holds blank characters only; the empty text does. -/
def blank (text : String) : Bool :=
  text.toList.all isBlank

/-- The characters from the first one that is not blank. -/
def trimStart (chars : List Char) : List Char :=
  chars.dropWhile isBlank

def trim (text : String) : String :=
  String.ofList (trimStart (trimStart text.toList).reverse).reverse

end StrongAuth.Text
