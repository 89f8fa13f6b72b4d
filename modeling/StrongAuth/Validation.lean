import StrongAuth.Authorisation
import StrongAuth.Refusal
import StrongAuth.Request
import StrongAuth.Text.Blank

/-! # Checks before a stage

A request is checked against the authorisation, its resource and the other
authorisations of the resource before any stage sees it. The first check that
objects decides. -/

namespace StrongAuth

/-- The statuses in which requests are taken, for each approach; an approach without a list
is not restricted. -/
structure StageRestrictions where
  embedded : Option (List Status)
  redirect : Option (List Status)
  decoupled : Option (List Status)
  deriving DecidableEq, Repr, Inhabited

namespace StageRestrictions

def none : StageRestrictions := ⟨.none, .none, .none⟩

def of (restrictions : StageRestrictions) : Approach → Option (List Status)
  | .embedded => restrictions.embedded
  | .redirect => restrictions.redirect
  | .decoupled => restrictions.decoupled

def set (restrictions : StageRestrictions) (approach : Approach) (statuses : List Status) :
    StageRestrictions :=
  match approach with
  | .embedded => { restrictions with embedded := some statuses }
  | .redirect => { restrictions with redirect := some statuses }
  | .decoupled => { restrictions with decoupled := some statuses }

def allows (restrictions : StageRestrictions) (approach : Approach) (status : Status) : Bool :=
  (restrictions.of approach).all fun statuses => statuses.contains status

end StageRestrictions

/-- The greatest lengths of the texts of a request, in characters. -/
structure FormatLimits where
  psuId : Nat
  credential : Nat
  code : Nat
  deriving DecidableEq, Repr

namespace FormatLimits

def standard : FormatLimits := ⟨140, 256, 256⟩

/-- What is wrong with the text of a field, if it is given. -/
def checkField (field : TextField) (limit : Nat) : Option String → Except FormatFault Unit
  | none => .ok ()
  | some text =>
      if Text.blank text then .error (.blank field)
      else if limit < text.length then .error (.tooLong field limit)
      else .ok ()

/-- Checks the texts of a request from the PSU to the code. -/
def check (limits : FormatLimits) (request : Request) : Except FormatFault Unit := do
  if let some psu := request.psu then
    checkField .psuId limits.psuId psu.id
    checkField .corporateId limits.psuId psu.corporateId
  checkField .password limits.credential request.password
  checkField .methodId limits.credential request.methodId
  checkField .code limits.code request.code

end FormatLimits

/-- A request with everything that it is checked against. -/
structure Candidate where
  request : Request
  record : Authorisation
  resource : Resource
  /-- All authorisations of the resource, if it needs more than one. -/
  siblings : List Authorisation

inductive Check
  /-- The PSU is the right one and has not signed before. -/
  | identity
  | stages (restrictions : StageRestrictions)
  | format (limits : FormatLimits)
  | accept
  | decline (kind : RefusalKind) (message : String)
  deriving DecidableEq, Repr

namespace Check

/-- The objection of the identity check. A PSU that is known or submitted has to match, to be
admitted to a multilevel resource, and not to have completed another authorisation of it. -/
def identityObjection (candidate : Candidate) : Option Refusal :=
  let submitted := candidate.request.submittedPsu
  if submitted.any fun psu => candidate.record.psu.any fun bound => !bound.sameAs psu then
    some .psuMismatch
  else if !candidate.resource.multilevel then none
  else
    match candidate.record.psu.or submitted with
    | none => none
    | some psu =>
        if !candidate.resource.acceptsSigner psu then some .notCoSigner
        else if candidate.siblings.any fun sibling =>
            sibling.id != candidate.record.id && sibling.status.isSuccessful && sibling.isOf psu
          then some .alreadySigned
        else none

def objection (candidate : Candidate) : Check → Option Refusal
  | .identity => identityObjection candidate
  | .stages restrictions =>
      if restrictions.allows candidate.record.approach candidate.record.status then none
      else some (.stageNotAllowed candidate.record.approach candidate.record.status)
  | .format limits =>
      match limits.check candidate.request with
      | .ok _ => none
      | .error fault => some (.format fault)
  | .accept => none
  | .decline kind message => some (.declined kind message)

def firstObjection (checks : List Check) (candidate : Candidate) : Option Refusal :=
  checks.findSome? (objection candidate)

def standard (restrictions : StageRestrictions) : List Check :=
  [.identity, .stages restrictions, .format .standard]

end Check

end StrongAuth
