import StrongAuth.Psu
import StrongAuth.Vocabulary

/-! # Requests against an authorisation

One request may identify the PSU, carry a credential, select a method, carry a
code, or report what the bank learnt on another channel. -/

namespace StrongAuth

/-- What the bank reports of a check made on its own pages or devices. -/
inductive BankOutcome
  | confirmed
  | rejected
  deriving DecidableEq, Repr, Inhabited

instance : Vocabulary BankOutcome where
  values := [.confirmed, .rejected]
  word
    | .confirmed => "confirmed"
    | .rejected => "rejected"
  mem_values value := by cases value <;> simp
  word_injective left right equal := by
    cases left <;> cases right <;> simp at equal ⊢

/-- A request to move an authorisation forward. Which parts count depends on its status. -/
structure Request where
  psu : Option Psu
  password : Option String
  methodId : Option String
  code : Option String
  bankOutcome : Option BankOutcome
  deriving DecidableEq, Repr, Inhabited

def Request.submittedPsu (request : Request) : Option Psu :=
  request.psu.filter fun psu => !psu.isEmpty

theorem Request.isEmpty_eq_false_of_submittedPsu {request : Request} {psu : Psu}
    (submitted : request.submittedPsu = some psu) : psu.isEmpty = false := by
  have kept := Option.filter_eq_some_iff.mp submitted
  simpa using kept.2

end StrongAuth
