import StrongAuth.Text.Base64
import StrongAuth.Text.Sha256
import StrongAuth.Text.Utf8

/-! # Hashes of confirmation codes

A confirmation code that the bank lets the node check is kept as a hash only. -/

namespace StrongAuth

/-- The base64 text of the SHA-256 hash of a confirmation code. -/
def codeHash (code : String) : String :=
  String.ofList (Base64.encode (Sha256.digest (Text.utf8 code)))

end StrongAuth
