import StrongAuth.Authorisation
import StrongAuth.Request

/-! # Evidence

What a request proves. The approach decides which part of a request counts: the
authentication and the confirmation of an authorisation each look at one place, or
at a second one if the first is empty. -/

namespace StrongAuth

/-- A proof submitted for the current stage. -/
inductive Evidence
  /-- A first factor, to be checked by the bank. -/
  | credential (password : String)
  | code (text : String)
  /-- A check the bank has made itself. -/
  | outcome (outcome : BankOutcome)
  deriving DecidableEq, Repr

namespace Request

def credentialEvidence (request : Request) : Option Evidence :=
  (request.password.filter fun password => !password.isEmpty).map .credential

def codeEvidence (request : Request) : Option Evidence :=
  (request.code.filter fun code => !code.isEmpty).map .code

def outcomeEvidence (request : Request) : Option Evidence :=
  request.bankOutcome.map .outcome

end Request

/-- Where the proofs of both factors come from. -/
structure EvidenceSource where
  authentication : Request → Option Evidence
  confirmation : Authorisation → Request → Option Evidence

namespace EvidenceSource

/-- The third party forwards the password and the code. Only a decoupled method is
confirmed by the bank's report, every other method needs the code. -/
def embedded : EvidenceSource where
  authentication := Request.credentialEvidence
  confirmation authorisation request :=
    if authorisation.chosen.any (·.decoupled) then request.outcomeEvidence
    else request.codeEvidence

def redirect : EvidenceSource where
  authentication := Request.outcomeEvidence
  confirmation _ request := request.codeEvidence <|> request.outcomeEvidence

/-- The password comes through the third party, the confirmation from the PSU's device. -/
def decoupled : EvidenceSource where
  authentication request := request.credentialEvidence <|> request.outcomeEvidence
  confirmation _ request := request.outcomeEvidence

def ofApproach : Approach → EvidenceSource
  | .embedded => embedded
  | .redirect => redirect
  | .decoupled => decoupled

/-- A source that gives the same evidence at both stages, whatever is requested. -/
def always (evidence : Option Evidence) : EvidenceSource where
  authentication _ := evidence
  confirmation _ _ := evidence

/-- The name under which the source of an approach shows up in diagnostics. -/
def name : Approach → String
  | .embedded => "EmbeddedEvidence"
  | .redirect => "RedirectEvidence"
  | .decoupled => "DecoupledEvidence"

end EvidenceSource

end StrongAuth
