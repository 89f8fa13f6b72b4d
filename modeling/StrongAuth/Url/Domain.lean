import StrongAuth.Text.Percent
import StrongAuth.Url.Domain.Direction
import StrongAuth.Url.Domain.Folding
import StrongAuth.Url.Domain.Joining
import StrongAuth.Url.Punycode

/-! # Domain names

The ASCII form of a domain name: labels in their folded form, those with characters
outside ASCII in Punycode, and none of the characters that have a meaning of their own in
a URL. -/

namespace StrongAuth.Domain

/-- The characters that no domain name may have in ASCII. -/
def isForbidden (char : Char) : Bool :=
  char.toNat ≤ 32 || char.toNat = 127 || "#/:<>?@[\\]^|%".toList.contains char

def isAscii (text : List Char) : Bool :=
  text.all fun char => char.toNat < 128

/-- What stands in front of a label in Punycode. -/
def punycodeMark : List Char := ['x', 'n', '-', '-']

/-- A label as it is read and as it is written in ASCII. -/
structure Label where
  text : List Char
  ascii : List Char
  deriving DecidableEq, Repr

namespace Label

/-- The greatest number of characters of a label that is not in ASCII. -/
def maximumLength : Nat := 1000

/-- The greatest number of characters of a label in Punycode, its mark not counted. -/
def maximumCodeLength : Nat := 2000

def isSound (text : List Char) : Bool :=
  !beginsWithMark text && joinersFit [] text && text.length ≤ maximumLength

/-- A label in Punycode from behind its mark. Its characters have to be folded, and one of
them at least is outside ASCII. -/
def ofCode? (code : List Char) : Option Label := do
  if !isAscii code || code.getLast?.all (· == '-') || maximumCodeLength < code.length then failure
  let text ← Punycode.decode? code
  if isFolded text && isSound text then return ⟨text, punycodeMark ++ code⟩ else failure

def ofText? (text : List Char) : Option Label :=
  if punycodeMark.isPrefixOf text then ofCode? (text.drop punycodeMark.length)
  else if isAscii text then some ⟨text, text⟩
  else if isSound text then some ⟨text, punycodeMark ++ Punycode.encode text⟩
  else none

end Label

/-- The ASCII form of a host name, percent signs decoded, if it has one. -/
def toAscii? (host : List Char) : Option (List Char) := do
  let text ← Percent.decode? (String.ofList host)
  let folded ← fold? text.toList
  let labels ← (folded.splitOn '.').mapM Label.ofText?
  let ascii := ['.'].intercalate (labels.map Label.ascii)
  if ascii.any isForbidden || !keepsDirection (labels.map Label.text) then failure
  return ascii

end StrongAuth.Domain
