import StrongAuth.Approach
import StrongAuth.Bank.Task
import StrongAuth.Resource
import StrongAuth.Status
import StrongAuth.Text.Decimal

/-! # Refusals

The expected ways in which a request is turned down. Each has a kind, which the
caller acts on, and a message. -/

namespace StrongAuth

inductive RefusalKind
  | resourceUnknown
  | resourceExpired
  | statusInvalid
  | credentialsInvalid
  | methodUnknown
  | scaInvalid
  | serviceUnavailable
  | formatError
  deriving DecidableEq, Repr, Inhabited

instance : Vocabulary RefusalKind where
  values := [.resourceUnknown, .resourceExpired, .statusInvalid, .credentialsInvalid,
    .methodUnknown, .scaInvalid, .serviceUnavailable, .formatError]
  word
    | .resourceUnknown => "RESOURCE_UNKNOWN"
    | .resourceExpired => "RESOURCE_EXPIRED"
    | .statusInvalid => "STATUS_INVALID"
    | .credentialsInvalid => "PSU_CREDENTIALS_INVALID"
    | .methodUnknown => "SCA_METHOD_UNKNOWN"
    | .scaInvalid => "SCA_INVALID"
    | .serviceUnavailable => "SERVICE_UNAVAILABLE"
    | .formatError => "FORMAT_ERROR"
  mem_values value := by cases value <;> simp
  word_injective left right equal := by
    cases left <;> cases right <;> simp at equal ⊢

def Task.rejectionKind : Task → RefusalKind
  | .authenticate => .credentialsInvalid
  | .listMethods | .execute => .serviceUnavailable
  | .requestCode => .methodUnknown
  | .confirm => .scaInvalid

inductive Factor
  /-- The credential. -/
  | first
  /-- The code or its confirmation by the bank. -/
  | second
  deriving DecidableEq, Repr

def Factor.kind : Factor → RefusalKind
  | .first => .credentialsInvalid
  | .second => .scaInvalid

inductive TextField
  | psuId
  | corporateId
  | password
  | methodId
  | code
  deriving DecidableEq, Repr

def TextField.name : TextField → String
  | .psuId => "psuId"
  | .corporateId => "psuCorporateId"
  | .password => "password"
  | .methodId => "authenticationMethodId"
  | .code => "scaAuthenticationData"

inductive FormatFault
  | blank (field : TextField)
  | tooLong (field : TextField) (limit : Nat)
  deriving DecidableEq, Repr

def FormatFault.message : FormatFault → String
  | .blank field => field.name ++ " must not be blank"
  | .tooLong field limit => field.name ++ " exceeds " ++ Decimal.text limit ++ " characters"

inductive Refusal
  | authorisationUnknown (id : String)
  | resourceUnknown (id : String)
  /-- The submitted PSU is not the one the authorisation belongs to. -/
  | psuMismatch
  | notCoSigner
  | expired
  | settled (status : Status)
  | modifiedConcurrently
  | resourceClosed (id : String) (status : ParentStatus)
  /-- The PSU has another authorisation of the resource that has not failed. -/
  | psuBusy
  | alreadySigned
  | stageNotAllowed (approach : Approach) (status : Status)
  /-- A method was chosen before; its id is given if it is chosen once more. -/
  | methodChosen (earlier : Option String)
  | format (fault : FormatFault)
  | psuMissing
  | credentialMissing
  | codeTooEarly
  | methodMissing
  | codeMissing
  | credentialTooLate
  /-- A wrong proof, with the number of attempts that are left. -/
  | attemptFailed (factor : Factor) (left : Nat)
  /-- The bank rejects a proof for good. -/
  | factorRejected (factor : Factor)
  /-- The bank reports that it rejected the PSU on its own pages or devices. -/
  | outcomeRejected (factor : Factor)
  /-- The code has another hash than the bank's confirmation code. -/
  | codeMismatch
  | noMethod
  | methodNotOffered (id : String)
  | bankFailed (task : Task) (fault : BankFault)
  /-- Turned down by a check of the deployment. -/
  | declined (kind : RefusalKind) (message : String)
  deriving DecidableEq, Repr

namespace Refusal

def kind : Refusal → RefusalKind
  | .authorisationUnknown _ | .resourceUnknown _ | .psuMismatch | .notCoSigner =>
      .resourceUnknown
  | .expired => .resourceExpired
  | .settled _ | .modifiedConcurrently | .resourceClosed .. | .psuBusy | .alreadySigned
  | .stageNotAllowed .. | .methodChosen _ => .statusInvalid
  | .format _ | .psuMissing | .credentialMissing | .codeTooEarly | .methodMissing
  | .codeMissing | .credentialTooLate => .formatError
  | .attemptFailed factor _ | .factorRejected factor | .outcomeRejected factor => factor.kind
  | .codeMismatch => .scaInvalid
  | .noMethod | .methodNotOffered _ => .methodUnknown
  | .bankFailed task (.rejected _) => task.rejectionKind
  | .bankFailed _ _ => .serviceUnavailable
  | .declined kind _ => kind

def attemptsLeft : Nat → String
  | 0 => "no attempts left"
  | left => Decimal.text left ++ " attempt(s) left"

def message : Refusal → String
  | .authorisationUnknown id => "authorisation " ++ id ++ " not found"
  | .resourceUnknown id => "resource " ++ id ++ " not found"
  | .psuMismatch => "PSU does not match the authorisation"
  | .notCoSigner => "PSU is not a co-signer of this resource"
  | .expired => "authorisation has expired"
  | .settled status => "authorisation is " ++ Vocabulary.word status
  | .modifiedConcurrently => "authorisation was modified concurrently"
  | .resourceClosed id status => "resource " ++ id ++ " is " ++ status.word
  | .psuBusy => "PSU already has an authorisation for this resource"
  | .alreadySigned => "PSU has already authorised this resource"
  | .stageNotAllowed approach status =>
      Vocabulary.word approach ++ " authorisations cannot be updated in status " ++
        Vocabulary.word status
  | .methodChosen none => "SCA method already chosen"
  | .methodChosen (some earlier) => "SCA method " ++ earlier ++ " already chosen"
  | .format fault => fault.message
  | .psuMissing => "PSU identification data missing"
  | .credentialMissing => "PSU credentials missing"
  | .codeTooEarly => "SCA authentication data not expected before authentication"
  | .methodMissing => "authentication method id missing"
  | .codeMissing => "SCA authentication data missing"
  | .credentialTooLate => "PSU already authenticated"
  | .attemptFailed .first left => "PSU credentials invalid, " ++ attemptsLeft left
  | .attemptFailed .second left => "SCA code invalid, " ++ attemptsLeft left
  | .factorRejected .first => "PSU authentication rejected"
  | .factorRejected .second => "SCA code rejected"
  | .outcomeRejected .first => "PSU authentication rejected by the bank"
  | .outcomeRejected .second => "SCA rejected by the bank"
  | .codeMismatch => "confirmation code does not match"
  | .noMethod => "no SCA method available"
  | .methodNotOffered id => "SCA method " ++ id ++ " was not offered"
  | .bankFailed task (.rejected reason) => task.phrase ++ " rejected: " ++ reason
  | .bankFailed task fault => task.phrase ++ " failed: " ++ fault.message
  | .declined _ message => message

def display (refusal : Refusal) : String :=
  Vocabulary.word refusal.kind ++ ": " ++ refusal.message

end Refusal

end StrongAuth
