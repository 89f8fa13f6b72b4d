import StrongAuth.Authorisation
import StrongAuth.Bank.Task
import StrongAuth.Interaction

/-! # Calls to the bank

What the bank is told with each task and what it answers. A bank is modelled by what
it answers to a call after all calls before it, together with the time it takes and
what other users of the store do in that time. -/

namespace StrongAuth

inductive CheckOutcome
  | success
  /-- The check is passed and the bank waives everything further. -/
  | exempted
  /-- Wrong, and the PSU may try again. -/
  | attemptFailure
  /-- Rejected for good. -/
  | failure
  deriving DecidableEq, Repr, Inhabited

instance : Vocabulary CheckOutcome where
  values := [.success, .exempted, .attemptFailure, .failure]
  word
    | .success => "Success"
    | .exempted => "Exempted"
    | .attemptFailure => "AttemptFailure"
    | .failure => "Failure"
  mem_values value := by cases value <;> simp
  word_injective left right equal := by
    cases left <;> cases right <;> simp at equal ⊢

structure CodeGrant where
  challenge : Option Challenge
  /-- The bank needs no confirmation of this operation. -/
  exempted : Bool
  /-- A code that is to be checked without asking the bank. -/
  confirmationCode : Option String
  /-- Correlation data that replaces the earlier one. -/
  bankData : Option (List UInt8)
  deriving DecidableEq, Repr, Inhabited

@[reducible] def Task.Answer : Task → Type
  | .authenticate => CheckOutcome
  | .listMethods => List Method
  | .requestCode => CodeGrant
  | .confirm => CheckOutcome
  | .execute => Unit

inductive Query
  | authenticate (password : String)
  | listMethods
  | requestCode (method : Method)
  | confirm (code : String) (challenge : Option Challenge)
  | execute
  deriving DecidableEq, Repr

@[reducible] def Query.task : Query → Task
  | .authenticate _ => .authenticate
  | .listMethods => .listMethods
  | .requestCode _ => .requestCode
  | .confirm .. => .confirm
  | .execute => .execute

structure BankCall where
  query : Query
  psu : Psu
  resource : Resource
  bankData : Option (List UInt8)
  deriving DecidableEq, Repr

@[reducible] def BankCall.Answer (call : BankCall) : Type :=
  Except BankFault call.query.task.Answer

structure Exchange where
  call : BankCall
  answer : call.Answer

def Exchange.succeeded (exchange : Exchange) : Bool :=
  exchange.answer.isOk

inductive Interference
  /-- Saves a record as it is stored, which raises its version. -/
  | resave (id : String)
  | setStatus (resource : String) (status : ParentStatus)
  deriving DecidableEq, Repr

structure Reply (call : BankCall) where
  interference : List Interference
  delay : Time.Span
  answer : call.Answer

/-- A bank: its reply to a call after the exchanges so far, the earliest of them first. -/
abbrev Bank := List Exchange → (call : BankCall) → Reply call

abbrev Dialogue := Interaction BankCall BankCall.Answer

end StrongAuth
