import StrongAuth.Bank.Call
import StrongAuth.Text.Utf8

/-! # A simulated bank

A bank with one password and one code for every PSU, and switches for each way in
which a bank may go on. It keeps a tally of what it has done. -/

namespace StrongAuth

structure SimulatedBank where
  password : String
  code : String
  methods : List Method
  /-- Wrong input is rejected for good. -/
  hardFailures : Bool
  exemptOnAuthentication : Bool
  exemptOnCodeRequest : Bool
  exemptOnConfirmation : Bool
  /-- A confirmation code handed over with every challenge. -/
  confirmationCode : Option String
  delay : Time.Span
  unavailable : Bool
  failingExecution : Bool
  deriving Repr

namespace SimulatedBank

def standard : SimulatedBank where
  password := "secret"
  code := "123456"
  methods := [⟨"sms", "SMS_OTP", none, false⟩]
  hardFailures := false
  exemptOnAuthentication := false
  exemptOnCodeRequest := false
  exemptOnConfirmation := false
  confirmationCode := none
  delay := ⟨0⟩
  unavailable := false
  failingExecution := false

/-- The outcome of comparing an input with what the bank expects. -/
def compare (bank : SimulatedBank) (expected given : String) (exempting : Bool) : CheckOutcome :=
  if given ≠ expected then if bank.hardFailures then .failure else .attemptFailure
  else if exempting then .exempted
  else .success

/-- The grant for a chosen method. Its correlation data are the bytes of the method's id. -/
def grant (bank : SimulatedBank) (method : Method) : CodeGrant where
  challenge := some {
    otpFormat := some "characters"
    otpMaxLength := some (UInt32.ofNat bank.code.utf8ByteSize)
    image := none
    additionalInformation := some ("code sent via " ++ method.kind) }
  exempted := bank.exemptOnCodeRequest
  confirmationCode := bank.confirmationCode
  bankData := some (Text.utf8 method.id)

def answer (bank : SimulatedBank) : (query : Query) → Except BankFault query.task.Answer
  | .authenticate password =>
      .ok (bank.compare bank.password password bank.exemptOnAuthentication)
  | .listMethods => .ok bank.methods
  | .requestCode method => .ok (bank.grant method)
  | .confirm code _ => .ok (bank.compare bank.code code bank.exemptOnConfirmation)
  | .execute => if bank.failingExecution then .error (.rejected "execution refused") else .ok ()

def toBank (bank : SimulatedBank) : Bank := fun _ call => {
  interference := []
  delay := bank.delay
  answer := if bank.unavailable then .error (.unavailable "mock backend down")
    else bank.answer call.query }

structure Tally where
  authentications : Nat
  confirmations : Nat
  executions : Nat
  deriving DecidableEq, Repr

/-- The tally of some exchanges. Only calls that were answered count. -/
def tally (exchanges : List Exchange) : Tally :=
  let count (task : Task) : Nat :=
    exchanges.countP fun exchange => exchange.succeeded && exchange.call.query.task == task
  ⟨count .authenticate, count .confirm, count .execute⟩

end SimulatedBank

end StrongAuth
