import StrongAuth.Time.Span
import StrongAuth.Vocabulary

/-! # What a bank is asked to do, and how it fails -/

namespace StrongAuth

/-- The tasks a bank performs for an authorisation. -/
inductive Task
  | authenticate
  | listMethods
  | requestCode
  | confirm
  /-- Execute the payment or put the consent into force. -/
  | execute
  deriving DecidableEq, Repr, Inhabited

instance : Vocabulary Task where
  values := [.authenticate, .listMethods, .requestCode, .confirm, .execute]
  word
    | .authenticate => "authenticate"
    | .listMethods => "list_sca_methods"
    | .requestCode => "request_authorisation_code"
    | .confirm => "confirm"
    | .execute => "execute_underlying_operation"
  mem_values value := by cases value <;> simp
  word_injective left right equal := by
    cases left <;> cases right <;> simp at equal ⊢

def Task.phrase : Task → String
  | .authenticate => "authentication"
  | .listMethods => "listing SCA methods"
  | .requestCode => "requesting authorisation code"
  | .confirm => "SCA confirmation"
  | .execute => "executing the operation"

inductive BankFault
  | unavailable (reason : String)
  | timedOut (operation : String) (limit : Time.Span)
  | rejected (reason : String)
  deriving DecidableEq, Repr

def BankFault.message : BankFault → String
  | .unavailable reason => "Backend unavailable: " ++ reason
  | .timedOut operation limit =>
      "Backend call " ++ operation ++ " timed out after " ++ limit.text
  | .rejected reason => "Backend rejected request: " ++ reason

/-- What comes of a call that is given up once `limit` has passed: a call that takes longer
is timed out, and one that takes no time never is. -/
def BankFault.within {α : Type} (operation : String) (limit delay : Time.Span)
    (answer : Except BankFault α) : Except BankFault α :=
  if limit.nanos < delay.nanos then .error (.timedOut operation limit) else answer

end StrongAuth
