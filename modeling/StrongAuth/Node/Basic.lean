import StrongAuth.Aggregate
import StrongAuth.Config
import StrongAuth.Node.Effect
import StrongAuth.Response

/-! # The node

What a node does with an authorisation, as procedures over its store, its bank and its
events. The reading of the clock and the id of a new authorisation are given to each
operation. -/

namespace StrongAuth

/-- A node: its settings in the form in which operations need them. -/
structure Node where
  links : Links
  approaches : ApproachChoice
  policy : StagePolicy
  checks : List Check
  /-- Lifetime of a redirect link in nanoseconds. -/
  redirectLifetime : Int
  /-- Lifetime of an authorisation in nanoseconds. -/
  lifetime : Int
  bankLimit : Time.Span
  sweepInterval : Option UInt64

namespace Node

def lifetimeOf (seconds : UInt64) : Except Fault Int :=
  match Config.duration? seconds with
  | some seconds => .ok (seconds * 1000000000)
  | none => .error .beyondCalendar

/-- A node of a checked configuration. Unless it is given checks of its own, it uses the
standard ones. -/
def ofConfig (config : Config) (checks : Option (List Check)) : Except Fault Node := do
  config.validate.mapError .configuration
  let links ← config.links.mapError .configuration
  let redirectLifetime ← lifetimeOf config.redirectLifetime
  let lifetime ← lifetimeOf config.authorisationLifetime
  return {
    links
    approaches := config.approachChoice
    policy := config.stagePolicy
    checks := checks.getD (Check.standard config.restrictions)
    redirectLifetime
    lifetime
    bankLimit := config.bankLimit
    sweepInterval := config.sweepInterval }

open StrongAuth.Action

/-! ## Loading and saving -/

def load (id : String) : Action Authorisation := do
  match ← call (.get id) with
  | some record => return record
  | none => refuse (.authorisationUnknown id)

/-- Saves a copy of an authorisation. A conflict means that someone else was faster. -/
def persist (record : Authorisation) (now : Time.Timestamp) : Action Authorisation := do
  match ← perform (.store (.save { record with updated := now })) with
  | .ok saved => return saved
  | .error (.conflict ..) => refuse .modifiedConcurrently
  | .error fault => throw (.faulted (.storage fault))

def publishChange (record : Authorisation) (earlier : Status) : Action Unit :=
  if record.status = earlier then return ()
  else publish (.statusChanged record.id record.parent (Vocabulary.word earlier)
    (Vocabulary.word record.status))

/-! ## The parent -/

/-- Derives the status of a resource from its authorisations once more and stores it if it
changes; gives the new status. -/
def projectParent (parent : String) : Action (Option ParentStatus) := do
  match ← call (.resource parent) with
  | none => fault (.invariant (.parentMissing parent))
  | some resource =>
      let records ← call (.listByParent parent)
      match resource.derive? (records.map (·.status)) with
      | none => return none
      | some status =>
          call (.setParentStatus parent status)
          publish (.parentChanged parent resource.status.word status.word)
          return some status

/-! ## Expiry -/

def expire (record : Authorisation) (now : Time.Timestamp) : Action Authorisation := do
  let saved ← persist { record with status := .failed } now
  publish (.expired saved.id saved.parent)
  publishChange saved record.status
  let _ ← projectParent saved.parent
  return saved

/-- The status of an authorisation. One that has expired is failed on the way. -/
def status (id : String) (now : Time.Timestamp) : Action Status := do
  let record ← load id
  if !record.isOverdue now then return record.status
  else withLock id do
    let record ← load id
    if record.status.isTerminal then return record.status
    else return (← expire record now).status

/-- Fails an authorisation if it is still there and still overdue; tells whether it was. -/
def expireCandidate (id : String) (now : Time.Timestamp) : Action Bool := do
  match ← call (.get id) with
  | none => return false
  | some record =>
      if !record.isOverdue now then return false
      else
        let _ ← expire record now
        return true

/-- Fails those of some authorisations that are overdue and counts them. One that cannot be
failed because of a refusal is passed over. -/
def sweepCandidates (now : Time.Timestamp) : List Authorisation → Action Nat
  | [] => return 0
  | candidate :: candidates => do
      let outcome ← ExceptT.lift (withLock candidate.id (expireCandidate candidate.id now)).run
      let expired ← match outcome with
        | .ok expired => pure expired
        | .error (.refused _) => pure false
        | .error (.faulted fault) => throw (.faulted fault)
      let others ← sweepCandidates now candidates
      return (if expired then 1 else 0) + others

def sweep (now : Time.Timestamp) : Action Nat := do
  sweepCandidates now (← call (.listExpired now))

/-! ## Start -/

/-- Whether another authorisation stands in the way of one for a PSU. -/
def isBusy (psu : Psu) (records : List Authorisation) : Bool :=
  records.any fun record => record.status != .failed && record.isOf psu

/-- Checks whether a PSU may start an authorisation of a resource that needs all its
co-signers. -/
def checkSigner (resource : Resource) (psu : Psu) : Action Unit := do
  if !resource.acceptsSigner psu then refuse .notCoSigner
  let records ← call (.listByParent resource.id)
  if isBusy psu records then refuse .psuBusy

def start (node : Node) (newId resourceId : String) (psu : Option Psu)
    (preferred : Option Approach) (now : Time.Timestamp) : Action StartResponse := do
  let approach := node.approaches.resolve preferred
  match ← call (.resource resourceId) with
  | none => refuse (.resourceUnknown resourceId)
  | some resource =>
      if !resource.status.acceptsAuthorisation then
        refuse (.resourceClosed resourceId resource.status)
      let psu := psu.filter fun psu => !psu.isEmpty
      if resource.multilevel then
        if let some psu := psu then checkSigner resource psu
      match Authorisation.open? newId resource psu approach node.redirectLifetime node.lifetime
          now with
      | none => fault .beyondCalendar
      | some record =>
          call (.insert record)
          publish (.created record.id record.parent (Vocabulary.word approach))
          return .of node.links record

/-! ## Update -/

def conclude (node : Node) (earlier : Status) (verdict : Stage.Verdict)
    (now : Time.Timestamp) : Action UpdateResponse := do
  match verdict.outcome with
  | .advance status =>
      match Status.check node.policy.exemption earlier status with
      | .error refused => fault (.invariant (.transition refused))
      | .ok _ =>
          let saved ← persist { verdict.record with status } now
          publishChange saved earlier
          if status.isTerminal then
            let _ ← projectParent saved.parent
          return .of node.links saved
  | .refuse refusal => refuse refusal
  | .retry refusal =>
      let _ ← persist { verdict.record with status := earlier } now
      refuse refusal
  | .fail refusal =>
      let saved ← persist { verdict.record with status := .failed } now
      publishChange saved earlier
      let _ ← projectParent saved.parent
      refuse refusal

def process (node : Node) (id : String) (request : Request) (now : Time.Timestamp) :
    Action UpdateResponse := do
  let record ← load id
  if record.status.isTerminal then refuse (.settled record.status)
  if record.isExpired now then
    let _ ← expire record now
    refuse .expired
  match ← call (.resource record.parent) with
  | none => refuse (.resourceUnknown record.parent)
  | some resource =>
      let siblings ← if resource.multilevel then call (.listByParent record.parent) else pure []
      if let some refusal := Check.firstObjection node.checks
          ⟨request, record, resource, siblings⟩ then
        refuse refusal
      let verdict ← converse (Stage.handle record.status
        ⟨request, resource, .ofApproach record.approach, node.policy⟩ record)
      node.conclude record.status verdict now

/-- Applies a request to an authorisation. A refusal is published once the lock is given
back. -/
def update (node : Node) (id : String) (request : Request) (now : Time.Timestamp) :
    Action UpdateResponse := do
  match ← ExceptT.lift (withLock id (node.process id request now)).run with
  | .ok response => return response
  | .error failure =>
      if let .refused refusal := failure then
        publish (.refused id refusal.kind refusal.message)
      throw failure

/-! ## The other operations -/

def register (resource : Resource) : Action Unit :=
  call (.register resource)

def list (resourceId : String) : Action (List String) := do
  match ← call (.resource resourceId) with
  | none => refuse (.resourceUnknown resourceId)
  | some _ => return (← call (.listByParent resourceId)).map (·.id)

end Node

end StrongAuth
