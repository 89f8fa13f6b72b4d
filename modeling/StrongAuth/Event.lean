import StrongAuth.Refusal

/-! # Events

What the node tells its surroundings. Statuses and approaches are told as words. -/

namespace StrongAuth

inductive Event
  | created (authorisation parent approach : String)
  | statusChanged (authorisation parent earlier later : String)
  | refused (authorisation : String) (kind : RefusalKind) (message : String)
  | expired (authorisation parent : String)
  | parentChanged (parent earlier later : String)
  deriving DecidableEq, Repr

/-- The tag of an event. -/
def Event.tag : Event → String
  | .created .. => "authorisation_created"
  | .statusChanged .. => "sca_status_changed"
  | .refused .. => "authorisation_rejected"
  | .expired .. => "authorisation_expired"
  | .parentChanged .. => "parent_status_changed"

end StrongAuth
