/-! # UTF-8

Text as bytes, and the bytes that are text. -/

namespace StrongAuth.Text

def utf8 (text : String) : List UInt8 :=
  text.toList.flatMap String.utf8EncodeChar

/-- The text that has these bytes in UTF-8, if there is one. -/
def ofUtf8? (bytes : List UInt8) : Option String :=
  String.fromUTF8? ⟨bytes.toArray⟩

end StrongAuth.Text
