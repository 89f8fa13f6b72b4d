import StrongAuth.Psu
import StrongAuth.Vocabulary
import StrongAuth.Time.Timestamp

/-! # Parent resources

The consents and payments that authorisations belong to. A consent and a payment
have statuses of two separate vocabularies. -/

namespace StrongAuth

inductive ResourceKind
  | accountConsent
  | payment
  /-- Consent to confirmations of funds. -/
  | fundsConsent
  deriving DecidableEq, Repr, Inhabited

instance : Vocabulary ResourceKind where
  values := [.accountConsent, .payment, .fundsConsent]
  word
    | .accountConsent => "ais_consent"
    | .payment => "pis_payment"
    | .fundsConsent => "piis_consent"
  mem_values value := by cases value <;> simp
  word_injective left right equal := by
    cases left <;> cases right <;> simp at equal ⊢

def ResourceKind.parse (text : String) : Except WordFault ResourceKind :=
  Vocabulary.parse "resource kind" text

def ResourceKind.isConsent : ResourceKind → Bool
  | .accountConsent | .fundsConsent => true
  | .payment => false

inductive ConsentStatus
  | received
  | partiallyAuthorised
  | valid
  | rejected
  | revokedByPsu
  | expired
  | terminatedByTpp
  deriving DecidableEq, Repr, Inhabited

instance : Vocabulary ConsentStatus where
  values := [.received, .partiallyAuthorised, .valid, .rejected, .revokedByPsu, .expired,
    .terminatedByTpp]
  word
    | .received => "received"
    | .partiallyAuthorised => "partiallyAuthorised"
    | .valid => "valid"
    | .rejected => "rejected"
    | .revokedByPsu => "revokedByPsu"
    | .expired => "expired"
    | .terminatedByTpp => "terminatedByTpp"
  mem_values value := by cases value <;> simp
  word_injective left right equal := by
    cases left <;> cases right <;> simp at equal ⊢

def ConsentStatus.parse (text : String) : Except WordFault ConsentStatus :=
  Vocabulary.parse "consent status" text

/-- Transaction status of a payment, named after the codes of ISO 20022. -/
inductive PaymentStatus
  | received
  /-- Technically correct, further signatures are awaited. -/
  | partiallyAccepted
  /-- Technically validated. -/
  | validated
  /-- Settlement is in process. -/
  | settling
  /-- Settlement is complete. -/
  | settled
  | rejected
  | cancelled
  deriving DecidableEq, Repr, Inhabited

instance : Vocabulary PaymentStatus where
  values := [.received, .partiallyAccepted, .validated, .settling, .settled, .rejected,
    .cancelled]
  word
    | .received => "RCVD"
    | .partiallyAccepted => "PATC"
    | .validated => "ACTC"
    | .settling => "ACSP"
    | .settled => "ACSC"
    | .rejected => "RJCT"
    | .cancelled => "CANC"
  mem_values value := by cases value <;> simp
  word_injective left right equal := by
    cases left <;> cases right <;> simp at equal ⊢

def PaymentStatus.parse (text : String) : Except WordFault PaymentStatus :=
  Vocabulary.parse "transaction status" text

inductive ParentStatus
  | consent (status : ConsentStatus)
  | payment (status : PaymentStatus)
  deriving DecidableEq, Repr, Inhabited

namespace ParentStatus

def word : ParentStatus → String
  | .consent status => Vocabulary.word status
  | .payment status => Vocabulary.word status

def initial (kind : ResourceKind) : ParentStatus :=
  if kind.isConsent then .consent .received else .payment .received

def acceptsAuthorisation : ParentStatus → Bool
  | .consent .received | .consent .partiallyAuthorised => true
  | .payment .received | .payment .partiallyAccepted => true
  | _ => false

/-- Whether the status was set apart from any authorisation, by revocation, expiry or
settlement, and is not to be overwritten. -/
def isClosed : ParentStatus → Bool
  | .consent .revokedByPsu | .consent .expired | .consent .terminatedByTpp => true
  | .payment .settled | .payment .cancelled => true
  | _ => false

/-- Whether a status belongs to the vocabulary of a kind. -/
def fits (kind : ResourceKind) : ParentStatus → Bool
  | .consent _ => kind.isConsent
  | .payment _ => !kind.isConsent

def parse (kind : ResourceKind) (text : String) : Except WordFault ParentStatus :=
  if kind.isConsent then (ConsentStatus.parse text).map .consent
  else (PaymentStatus.parse text).map .payment

theorem parse_word {kind : ResourceKind} {status : ParentStatus}
    (fitting : status.fits kind = true) : parse kind status.word = .ok status := by
  cases status <;> cases kind <;>
    simp_all [fits, ResourceKind.isConsent, parse, word, ConsentStatus.parse,
      PaymentStatus.parse, Vocabulary.parse_word, Except.map]

end ParentStatus

structure Resource where
  id : String
  kind : ResourceKind
  status : ParentStatus
  /-- Every co-signer has to authorise the resource. -/
  multilevel : Bool
  /-- The first factor alone authorises the resource. -/
  oneFactor : Bool
  /-- A co-signer that fails does not fail the resource. -/
  partialAllowed : Bool
  coSigners : List Psu
  created : Time.Timestamp
  deriving DecidableEq, Repr, Inhabited

namespace Resource

/-- How many authorisations a multilevel resource needs. -/
def requiredSigners (resource : Resource) : Nat :=
  max 1 resource.coSigners.length

/-- Whether a PSU may sign: without named co-signers everyone may. -/
def acceptsSigner (resource : Resource) (psu : Psu) : Bool :=
  resource.coSigners.isEmpty || resource.coSigners.any fun signer => signer.sameAs psu

end Resource

end StrongAuth
