import StrongAuth.Authorisation
import StrongAuth.Fault
import StrongAuth.Text.Percent
import StrongAuth.Url.Reading

/-! # Links

With every answer the third party is told what to do next: a relation, and the
address of the authorisation below the configured base. -/

namespace StrongAuth

inductive Relation
  | scaRedirect
  | scaStatus
  | updatePsuIdentification
  | updatePsuAuthentication
  | selectAuthenticationMethod
  | authoriseTransaction
  deriving DecidableEq, Repr, Inhabited

instance : Vocabulary Relation where
  values := [.scaRedirect, .scaStatus, .updatePsuIdentification, .updatePsuAuthentication,
    .selectAuthenticationMethod, .authoriseTransaction]
  word
    | .scaRedirect => "scaRedirect"
    | .scaStatus => "scaStatus"
    | .updatePsuIdentification => "updatePsuIdentification"
    | .updatePsuAuthentication => "updatePsuAuthentication"
    | .selectAuthenticationMethod => "selectAuthenticationMethod"
    | .authoriseTransaction => "authoriseTransaction"
  mem_values value := by cases value <;> simp
  word_injective left right equal := by
    cases left <;> cases right <;> simp at equal ⊢

structure NextLink where
  relation : Relation
  address : String
  deriving DecidableEq, Repr, Inhabited

namespace Authorisation

/-- The path of the resources of a kind. -/
def collectionPath : ResourceKind → String
  | .accountConsent => "/v1/consents/"
  | .payment => "/v1/payments/"
  | .fundsConsent => "/v2/consents/confirmation-of-funds/"

/-- The path of an authorisation below that of its resource. -/
def path (authorisation : Authorisation) : String :=
  collectionPath authorisation.kind ++ Percent.encodeSegment authorisation.parent ++
    "/authorisations/" ++ Percent.encodeSegment authorisation.id

def nextRelation (authorisation : Authorisation) : Relation :=
  if authorisation.status.isTerminal then .scaStatus
  else
    match authorisation.approach, authorisation.status with
    | .redirect, .received | .redirect, .psuIdentified => .scaRedirect
    | .redirect, _ => .scaStatus
    | _, .received =>
        if authorisation.psu.isNone then .updatePsuIdentification else .updatePsuAuthentication
    | _, .psuIdentified => .updatePsuAuthentication
    | _, .psuAuthenticated => .selectAuthenticationMethod
    | .decoupled, _ => .scaStatus
    | _, _ =>
        if authorisation.chosen.any (·.decoupled) then .scaStatus else .authoriseTransaction

end Authorisation

structure Links where
  apiBase : Url
  redirectBase : Url
  deriving DecidableEq, Repr

namespace Links

/-- The links below two bases given as text. -/
def ofTexts (apiBase redirectBase : String) : Except ConfigFault Links := do
  let api ← (Url.read apiBase).mapError (.apiBase apiBase)
  let redirect ← (Url.read redirectBase).mapError (.redirectBase redirectBase)
  return ⟨api, redirect⟩

/-- The text of a base without slashes at its end. -/
def trimmed (base : Url) : String :=
  String.ofList (base.write.reverse.dropWhile (· == '/')).reverse

def next (links : Links) (authorisation : Authorisation) : NextLink :=
  match authorisation.nextRelation with
  | .scaRedirect =>
      ⟨.scaRedirect, trimmed links.redirectBase ++ "/" ++ Percent.encodeSegment authorisation.id⟩
  | relation => ⟨relation, trimmed links.apiBase ++ authorisation.path⟩

end Links

end StrongAuth
