import StrongAuth.Bank.Call
import StrongAuth.CodeHash
import StrongAuth.Evidence
import StrongAuth.Refusal

/-! # Stages

A stage takes a request against an authorisation as far as it goes: it holds a
conversation with the bank and ends in a verdict. It works on a copy of the
authorisation and stores nothing. The status of the authorisation selects the
stage, and one request may run through several of them. -/

namespace StrongAuth

inductive ZeroMethods
  /-- The first factor is enough. -/
  | finalise
  | reject
  deriving DecidableEq, Repr, Inhabited

instance : Vocabulary ZeroMethods where
  values := [.finalise, .reject]
  word
    | .finalise => "finalise"
    | .reject => "reject"
  mem_values value := by cases value <;> simp
  word_injective left right equal := by
    cases left <;> cases right <;> simp at equal ⊢

structure StagePolicy where
  zeroMethods : ZeroMethods
  exemption : ExemptionPolicy
  /-- The number of wrong attempts that fails an authorisation. -/
  maxAttempts : UInt32
  deriving DecidableEq, Repr

namespace Stage

/-- What a stage works with besides the authorisation. -/
structure Input where
  request : Request
  resource : Resource
  evidence : EvidenceSource
  policy : StagePolicy

inductive Outcome
  /-- Store the copy with this status. -/
  | advance (status : Status)
  /-- Store nothing. -/
  | refuse (refusal : Refusal)
  /-- Store the copy with its old status. -/
  | retry (refusal : Refusal)
  /-- Store the copy as failed. -/
  | fail (refusal : Refusal)
  deriving DecidableEq, Repr

structure Verdict where
  outcome : Outcome
  record : Authorisation
  deriving DecidableEq, Repr

def consult (input : Input) (record : Authorisation) (query : Query) :
    Dialogue (Except BankFault query.task.Answer) :=
  .ask ⟨query, record.knownPsu, input.resource, record.bankData⟩ .done

def bankFailed (record : Authorisation) (task : Task) (fault : BankFault) : Verdict :=
  ⟨.fail (.bankFailed task fault), record⟩

/-- Counts a wrong attempt. The last one that is allowed fails the authorisation. -/
def attemptFailed (input : Input) (record : Authorisation) (factor : Factor) : Verdict :=
  let counted := { record with failedAttempts := record.failedAttempts + 1 }
  if input.policy.maxAttempts ≤ counted.failedAttempts then
    ⟨.fail (.attemptFailed factor 0), counted⟩
  else
    let left := input.policy.maxAttempts.toNat - counted.failedAttempts.toNat
    ⟨.retry (.attemptFailed factor left), counted⟩

/-! ## Completion -/

/-- Executes the operation and moves on to a terminal status. -/
def finalise (input : Input) (record : Authorisation) (status : Status) : Dialogue Verdict := do
  match ← consult input record .execute with
  | .ok _ => return ⟨.advance status, record⟩
  | .error fault => return bankFailed record .execute fault

/-- Completes an authorisation that the bank exempts. Where the policy does not allow an
exemption it counts as finalised. -/
def exempt (input : Input) (record : Authorisation) : Dialogue Verdict :=
  finalise input record
    (if input.policy.exemption.allowsFrom record.status then .exempted else .finalised)

/-! ## Methods and challenges -/

def issueChallenge (input : Input) (record : Authorisation) (method : Method) :
    Dialogue Verdict := do
  match record.choose method with
  | .error earlier => return ⟨.refuse (.methodChosen (some earlier.id)), record⟩
  | .ok record =>
      match ← consult input record (.requestCode method) with
      | .error fault => return bankFailed record .requestCode fault
      | .ok grant =>
          let record := { record with bankData := grant.bankData.or record.bankData }
          if grant.exempted then exempt input record
          else
            return ⟨.advance .scaMethodSelected, { record with
              challenge := grant.challenge
              codeHash := grant.confirmationCode.map codeHash }⟩

/-- Asks the bank for methods. A single one is chosen at once. -/
def offerMethods (input : Input) (record : Authorisation) : Dialogue Verdict := do
  match ← consult input record .listMethods with
  | .error fault => return bankFailed record .listMethods fault
  | .ok [] =>
      match input.policy.zeroMethods with
      | .finalise => finalise input record .finalised
      | .reject => return ⟨.fail .noMethod, record⟩
  | .ok [method] => issueChallenge input { record with offered := [method] } method
  | .ok methods => return ⟨.advance .psuAuthenticated, { record with offered := methods }⟩

/-! ## The stages -/

/-- Goes on after the first factor, which is the only one for some resources. -/
def afterAuthentication (input : Input) (record : Authorisation) : Dialogue Verdict :=
  let record := { record with failedAttempts := 0 }
  if input.resource.oneFactor then finalise input record .finalised
  else offerMethods input record

/-- Identifies the PSU and checks the first factor. A request without a proof identifies the
PSU only. -/
def authenticate (input : Input) (record : Authorisation) : Dialogue Verdict := do
  let record := { record with psu := record.psu.or input.request.submittedPsu }
  match input.evidence.authentication input.request with
  | none =>
      if record.psu.isNone then return ⟨.refuse .psuMissing, record⟩
      else if record.status = .received then return ⟨.advance .psuIdentified, record⟩
      else return ⟨.refuse .credentialMissing, record⟩
  | some (.credential password) =>
      if record.psu.isNone then return ⟨.refuse .psuMissing, record⟩
      else
        match ← consult input record (.authenticate password) with
        | .ok .success => afterAuthentication input record
        | .ok .exempted => exempt input record
        | .ok .attemptFailure => return attemptFailed input record .first
        | .ok .failure => return ⟨.fail (.factorRejected .first), record⟩
        | .error fault => return bankFailed record .authenticate fault
  | some (.outcome .confirmed) => afterAuthentication input record
  | some (.outcome .rejected) => return ⟨.fail (.outcomeRejected .first), record⟩
  | some (.code _) => return ⟨.refuse .codeTooEarly, record⟩

def selectMethod (input : Input) (record : Authorisation) : Dialogue Verdict :=
  if record.offered.isEmpty then offerMethods input record
  else
    match input.request.methodId with
    | none => return ⟨.refuse .methodMissing, record⟩
    | some methodId =>
        match record.offered? methodId with
        | some method => issueChallenge input record method
        | none => return ⟨.refuse (.methodNotOffered methodId), record⟩

/-- Checks a code, against the stored hash if there is one and with the bank otherwise. -/
def confirmCode (input : Input) (record : Authorisation) (code : String) :
    Dialogue Verdict := do
  match record.codeHash with
  | some expected =>
      if codeHash code = expected then finalise input record .finalised
      else return ⟨.fail .codeMismatch, record⟩
  | none =>
      match ← consult input record (.confirm code record.challenge) with
      | .ok .success => finalise input record .finalised
      | .ok .exempted => exempt input record
      | .ok .attemptFailure => return attemptFailed input record .second
      | .ok .failure => return ⟨.fail (.factorRejected .second), record⟩
      | .error fault => return bankFailed record .confirm fault

def confirm (input : Input) (record : Authorisation) : Dialogue Verdict :=
  match input.evidence.confirmation record input.request with
  | none =>
      if input.request.methodId.isSome then return ⟨.refuse (.methodChosen none), record⟩
      else return ⟨.refuse .codeMissing, record⟩
  | some (.code code) => confirmCode input record code
  | some (.outcome .confirmed) => finalise input record .finalised
  | some (.outcome .rejected) => return ⟨.fail (.outcomeRejected .second), record⟩
  | some (.credential _) => return ⟨.refuse .credentialTooLate, record⟩

/-- The stage for requests against an authorisation of a given status. Terminal statuses
take no request. -/
def handle (status : Status) (input : Input) (record : Authorisation) : Dialogue Verdict :=
  match status with
  | .received | .psuIdentified => authenticate input record
  | .psuAuthenticated => selectMethod input record
  | .scaMethodSelected => confirm input record
  | .finalised | .failed | .exempted => return ⟨.refuse (.settled record.status), record⟩

end Stage

end StrongAuth
