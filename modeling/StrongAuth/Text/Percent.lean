import StrongAuth.Text.Hexadecimal
import StrongAuth.Text.Utf8

/-! # Percent-encoding

Bytes outside a chosen set of characters are written `%XX` with capital
hexadecimal digits. Text is encoded byte by byte in UTF-8. -/

namespace StrongAuth.Percent

def escapeByte (byte : UInt8) : List Char :=
  ['%', Hexadecimal.upperDigit (byte.toNat / 16), Hexadecimal.upperDigit (byte.toNat % 16)]

/-- One character, kept if `keep` holds of it and escaped byte by byte otherwise. -/
def encodeChar (keep : Char → Bool) (char : Char) : List Char :=
  if keep char then [char] else (String.utf8EncodeChar char).flatMap escapeByte

def encodeChars (keep : Char → Bool) (chars : List Char) : List Char :=
  chars.flatMap (encodeChar keep)

/-- The bytes an encoded text stands for. A percent sign without two hexadecimal digits
after it stands for itself. -/
def decodeBytes : List Char → List UInt8
  | [] => []
  | '%' :: high :: low :: rest =>
      match Hexadecimal.value? high, Hexadecimal.value? low with
      | some upper, some lower => UInt8.ofNat (upper * 16 + lower) :: decodeBytes rest
      | _, _ => 37 :: decodeBytes (high :: low :: rest)
  | char :: rest => String.utf8EncodeChar char ++ decodeBytes rest

/-- The text an encoded text stands for, if its bytes are UTF-8. -/
def decode? (encoded : String) : Option String :=
  Text.ofUtf8? (decodeBytes encoded.toList)

/-- The unreserved characters: ASCII letters and digits, `-`, `_`, `.` and `~`. -/
def isUnreserved (char : Char) : Bool :=
  char.isAlphanum || char == '-' || char == '_' || char == '.' || char == '~'

/-- A text as one path segment: all but the unreserved characters escaped. -/
def encodeSegment (text : String) : String :=
  String.ofList (encodeChars isUnreserved text.toList)

end StrongAuth.Percent
