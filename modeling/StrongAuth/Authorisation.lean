import StrongAuth.Approach
import StrongAuth.Method
import StrongAuth.Psu
import StrongAuth.Resource
import StrongAuth.Status

/-! # Authorisations

An authorisation is one attempt of one PSU to authorise one parent resource. -/

namespace StrongAuth

structure Authorisation where
  id : String
  parent : String
  kind : ResourceKind
  psu : Option Psu
  status : Status
  approach : Approach
  chosen : Option Method
  offered : List Method
  challenge : Option Challenge
  /-- Hash of a confirmation code that is checked without asking the bank. -/
  codeHash : Option String
  /-- Correlation data of the bank, handed back with every call. -/
  bankData : Option (List UInt8)
  failedAttempts : UInt32
  redirectDeadline : Time.Timestamp
  deadline : Time.Timestamp
  /-- Raised by every save; the greatest number is followed by the least. -/
  version : Int64
  created : Time.Timestamp
  updated : Time.Timestamp
  deriving DecidableEq, Repr, Inhabited

namespace Authorisation

/-- A new authorisation of `resource`, if both deadlines lie within the calendar. The
lifetimes are in nanoseconds. -/
def open? (id : String) (resource : Resource) (psu : Option Psu) (approach : Approach)
    (redirectLifetime lifetime : Int) (now : Time.Timestamp) : Option Authorisation := do
  let redirectDeadline ← now.shift? redirectLifetime
  let deadline ← now.shift? lifetime
  return {
    id
    parent := resource.id
    kind := resource.kind
    psu := psu.filter fun psu => !psu.isEmpty
    status := .received
    approach
    chosen := none
    offered := []
    challenge := none
    codeHash := none
    bankData := none
    failedAttempts := 0
    redirectDeadline
    deadline
    version := 0
    created := now
    updated := now }

/-- An authorisation is expired once either deadline has passed. -/
def isExpired (authorisation : Authorisation) (now : Time.Timestamp) : Bool :=
  authorisation.redirectDeadline < now || authorisation.deadline < now

/-- Whether the authorisation is live although a deadline has passed. -/
def isOverdue (authorisation : Authorisation) (now : Time.Timestamp) : Bool :=
  !authorisation.status.isTerminal && authorisation.isExpired now

def offered? (authorisation : Authorisation) (methodId : String) : Option Method :=
  authorisation.offered.find? fun method => method.id == methodId

/-- Chooses a method, or gives the method that was chosen before. -/
def choose (authorisation : Authorisation) (method : Method) : Except Method Authorisation :=
  match authorisation.chosen with
  | some earlier => .error earlier
  | none => .ok { authorisation with chosen := some method }

def isOf (authorisation : Authorisation) (psu : Psu) : Bool :=
  authorisation.psu.any fun bound => bound.sameAs psu

/-- The PSU as far as it is known. -/
def knownPsu (authorisation : Authorisation) : Psu :=
  authorisation.psu.getD .anonymous

end Authorisation

end StrongAuth
