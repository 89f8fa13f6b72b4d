/-! # SCA methods and their challenges -/

namespace StrongAuth

structure Method where
  id : String
  /-- The kind of authentication, such as `SMS_OTP`. -/
  kind : String
  name : Option String
  /-- The PSU confirms on a device of its own, and the bank learns the outcome there. -/
  decoupled : Bool
  deriving DecidableEq, Repr, Inhabited

/-- What the PSU is shown once a method is chosen. -/
structure Challenge where
  otpFormat : Option String
  otpMaxLength : Option UInt32
  image : Option String
  additionalInformation : Option String
  deriving DecidableEq, Repr, Inhabited

end StrongAuth
