import StrongAuth.Link
import StrongAuth.Stage
import StrongAuth.Text.Blank
import StrongAuth.Validation

/-! # Configuration

The settings of a node, their defaults, and how they are taken from the environment.
Lifetimes are counted in seconds without a sign; a lifetime beyond the signed range
counts from its other end, and one beyond the range of durations cannot be used. -/

namespace StrongAuth

structure Config where
  defaultApproach : Approach
  supportedApproaches : List Approach
  redirectLifetime : UInt64
  authorisationLifetime : UInt64
  bankTimeout : UInt64
  maxAttempts : UInt32
  zeroMethods : ZeroMethods
  exemption : ExemptionPolicy
  restrictions : StageRestrictions
  apiBase : String
  redirectBase : String
  /-- How often expired authorisations are swept, if at all. -/
  sweepInterval : Option UInt64
  deriving DecidableEq, Repr

namespace Config

def standard : Config where
  defaultApproach := .redirect
  supportedApproaches := [.redirect, .embedded, .decoupled]
  redirectLifetime := 600
  authorisationLifetime := 86400
  bankTimeout := 30
  maxAttempts := 3
  zeroMethods := .finalise
  exemption := .preAuthenticationOnly
  restrictions := .none
  apiBase := "http://localhost:8080"
  redirectBase := "http://localhost:4200/authorisation"
  sweepInterval := some 60

instance : Inhabited Config := ⟨standard⟩

def links (config : Config) : Except ConfigFault Links :=
  Links.ofTexts config.apiBase config.redirectBase

def validate (config : Config) : Except ConfigFault Unit := do
  if !config.supportedApproaches.contains config.defaultApproach then
    throw (.defaultNotSupported config.defaultApproach)
  if config.maxAttempts = 0 then throw .noAttempts
  if config.bankTimeout = 0 then throw .noTimeout
  let _ ← config.links
  return ()

def stagePolicy (config : Config) : StagePolicy :=
  ⟨config.zeroMethods, config.exemption, config.maxAttempts⟩

def approachChoice (config : Config) : ApproachChoice :=
  ⟨config.supportedApproaches, config.defaultApproach⟩

def bankLimit (config : Config) : Time.Span :=
  .ofSeconds config.bankTimeout.toNat

/-- The greatest number of seconds in a duration. -/
def maxDuration : Int := 9223372036854775

/-- A number of seconds as a duration. The upper half of the unsigned numbers is negative. -/
def duration? (seconds : UInt64) : Option Int :=
  let signed := seconds.toInt64.toInt
  if -maxDuration ≤ signed ∧ signed ≤ maxDuration then some signed else none

/-! ## Environment -/

/-- The variables of a process, by name. -/
abbrev Environment := List (String × String)

/-- A setting from a variable, or as it was if the variable is not set. -/
def setting {α : Type} (environment : Environment) (name : String) (before : α)
    (parse : String → Except String α) : Except ConfigFault α :=
  match environment.lookup name with
  | none => .ok before
  | some value => (parse value).mapError fun reason => .variable name value reason

/-- An unsigned number of at most `limit`. -/
def readNumber (limit : Nat) (text : String) : Except String Nat :=
  (Decimal.readUnsigned limit text).mapError (·.message)

def readSeconds (text : String) : Except String UInt64 :=
  (readNumber 18446744073709551615 text).map UInt64.ofNat

def readAttempts (text : String) : Except String UInt32 :=
  (readNumber 4294967295 text).map UInt32.ofNat

def readApproaches (text : String) : Except ConfigFault (List Approach) :=
  ((text.toList.splitOn ',').map fun part => Text.trim (String.ofList part)).mapM fun word =>
    (Approach.parse word).mapError .word

/-- The standard settings with those that the environment sets. The first variable that does
not parse decides the fault; then the settings are checked. -/
def ofEnvironment (environment : Environment) : Except ConfigFault Config := do
  let seconds (name : String) (before : UInt64) :=
    setting environment name before readSeconds
  let defaultApproach ← setting environment "XS2A_SCA_DEFAULT_APPROACH"
    standard.defaultApproach fun text => (Approach.parse text).mapError (·.message)
  let supportedApproaches ← match environment.lookup "XS2A_SCA_SUPPORTED_APPROACHES" with
    | none => pure standard.supportedApproaches
    | some text => readApproaches text
  let redirectLifetime ← seconds "XS2A_SCA_REDIRECT_URL_EXPIRATION_SECS"
    standard.redirectLifetime
  let authorisationLifetime ← seconds "XS2A_SCA_AUTHORISATION_EXPIRATION_SECS"
    standard.authorisationLifetime
  let bankTimeout ← seconds "XS2A_SCA_BACKEND_TIMEOUT_SECS" standard.bankTimeout
  let maxAttempts ← setting environment "XS2A_SCA_MAX_FAILED_ATTEMPTS" standard.maxAttempts
    readAttempts
  let sweepInterval ← setting environment "XS2A_SCA_EXPIRY_SWEEP_INTERVAL_SECS"
    standard.sweepInterval fun text => (readSeconds text).map fun seconds =>
      if seconds = 0 then none else some seconds
  let config := { standard with
    defaultApproach, supportedApproaches, redirectLifetime, authorisationLifetime,
    bankTimeout, maxAttempts, sweepInterval
    apiBase := (environment.lookup "XS2A_SCA_API_BASE_URL").getD standard.apiBase
    redirectBase := (environment.lookup "XS2A_SCA_REDIRECT_BASE_URL").getD standard.redirectBase }
  config.validate
  return config

end Config

end StrongAuth
