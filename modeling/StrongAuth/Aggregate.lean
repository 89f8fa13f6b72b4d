import StrongAuth.Resource
import StrongAuth.Status

/-! # The status of a resource from its authorisations

The statuses of all authorisations of a resource are combined into one aggregate,
and the aggregate is projected onto the vocabulary of the resource. -/

namespace StrongAuth

/-- The combined status of all authorisations of one resource. -/
inductive Aggregate
  /-- Nobody has completed SCA. -/
  | received
  /-- Some co-signers have completed SCA, but not all that are needed. -/
  | partiallyAuthorised
  | finalised
  /-- All have completed SCA, at least one by exemption. -/
  | exempted
  | failed
  deriving DecidableEq, Repr, Inhabited

instance : Vocabulary Aggregate where
  values := [.received, .partiallyAuthorised, .finalised, .exempted, .failed]
  word
    | .received => "Received"
    | .partiallyAuthorised => "PartiallyAuthorised"
    | .finalised => "Finalised"
    | .exempted => "Exempted"
    | .failed => "Failed"
  mem_values value := by cases value <;> simp
  word_injective left right equal := by
    cases left <;> cases right <;> simp at equal ⊢

namespace Aggregate

/-- The aggregate of a multilevel resource. Unless partial authorisation is allowed, one
failure fails the resource; otherwise every authorisation that has not failed has to
succeed, and at least `required` of them. -/
def multilevel (required : Nat) (partialAllowed : Bool) (statuses : List Status) : Aggregate :=
  let failed := statuses.count .failed
  let exempted := statuses.count .exempted
  let successful := statuses.count .finalised + exempted
  if statuses.isEmpty then .received
  else if 0 < failed && !partialAllowed then .failed
  else if failed = statuses.length then .failed
  else if successful = statuses.length - failed && required ≤ successful then
    if 0 < exempted then .exempted else .finalised
  else if 0 < successful then .partiallyAuthorised
  else .received

/-- The aggregate of any other resource: one success is enough, and it fails once every
authorisation has failed. -/
def singleLevel (statuses : List Status) : Aggregate :=
  if statuses.contains .finalised then .finalised
  else if statuses.contains .exempted then .exempted
  else if !statuses.isEmpty && statuses.all (· == .failed) then .failed
  else .received

def project (kind : ResourceKind) (aggregate : Aggregate) : ParentStatus :=
  if kind.isConsent then
    .consent (match aggregate with
      | .received => .received
      | .partiallyAuthorised => .partiallyAuthorised
      | .finalised | .exempted => .valid
      | .failed => .rejected)
  else
    .payment (match aggregate with
      | .received => .received
      | .partiallyAuthorised => .partiallyAccepted
      | .finalised | .exempted => .settling
      | .failed => .rejected)

end Aggregate

namespace Resource

def aggregate (resource : Resource) (statuses : List Status) : Aggregate :=
  if resource.multilevel then
    .multilevel resource.requiredSigners resource.partialAllowed statuses
  else .singleLevel statuses

/-- The new status of a resource whose authorisations have these statuses, if it is due to
change. A closed resource never changes. -/
def derive? (resource : Resource) (statuses : List Status) : Option ParentStatus :=
  let projected := (resource.aggregate statuses).project resource.kind
  if resource.status.isClosed || projected == resource.status then none else some projected

end Resource

end StrongAuth
