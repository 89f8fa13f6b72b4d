import StrongAuth.Refusal
import StrongAuth.Time.Fault

/-! # Faults

The unexpected ways in which the node fails: its storage, its configuration, or
one of its own invariants. -/

namespace StrongAuth

inductive DataFault
  | word (fault : WordFault)
  | attempts (count : Int64)
  | timestamp (text : String) (fault : Time.TimeFault)
  | other (text : String)
  deriving DecidableEq, Repr

def DataFault.message : DataFault → String
  | .word fault => fault.message
  | .attempts count => "failed_attempts " ++ Decimal.intText count.toInt
  | .timestamp text fault => "timestamp " ++ text ++ ": " ++ fault.message
  | .other text => text

inductive StoreFault
  /-- The database refused a statement or holds a value of another type. -/
  | database
  | migration (reason : String)
  /-- A stored JSON text does not parse. -/
  | serialization
  | io
  | notFound (id : String)
  | invalidData (fault : DataFault)
  | duplicate (id : String)
  | conflict (id : String) (expected : Int64)
  deriving DecidableEq, Repr

def StoreFault.message : StoreFault → String
  | .database => "Database error"
  | .migration reason => "Migration error: " ++ reason
  | .serialization => "Serialization error"
  | .io => "IO error"
  | .notFound id => "Not found: " ++ id
  | .invalidData fault => "Invalid stored value: " ++ fault.message
  | .duplicate id => "Duplicate authorisation: " ++ id
  | .conflict id expected =>
      "Version conflict on " ++ id ++ ": expected version " ++ Decimal.intText expected.toInt

inductive Breach
  /-- An authorisation belongs to a resource that is not there. -/
  | parentMissing (id : String)
  /-- A stage moves to a status that is not open to it. -/
  | transition (refused : InvalidTransition)
  | other (text : String)
  deriving DecidableEq, Repr

def Breach.message : Breach → String
  | .parentMissing id => "parent resource " ++ id ++ " missing"
  | .transition refused => refused.message
  | .other text => text

inductive UrlFault
  | relative
  | emptyHost
  | invalidPort
  | invalidIpv4
  | invalidIpv6
  | invalidDomain
  /-- The host of a scheme outside the web has a character it may not have. -/
  | invalidHostCharacter
  deriving DecidableEq, Repr

def UrlFault.message : UrlFault → String
  | .relative => "relative URL without a base"
  | .emptyHost => "empty host"
  | .invalidPort => "invalid port number"
  | .invalidIpv4 => "invalid IPv4 address"
  | .invalidIpv6 => "invalid IPv6 address"
  | .invalidDomain => "invalid international domain name"
  | .invalidHostCharacter => "invalid domain character"

inductive ConfigFault
  | defaultNotSupported (approach : Approach)
  | noAttempts
  | noTimeout
  | apiBase (text : String) (fault : UrlFault)
  | redirectBase (text : String) (fault : UrlFault)
  | variable (name value reason : String)
  | word (fault : WordFault)
  | other (text : String)
  deriving DecidableEq, Repr

def ConfigFault.message : ConfigFault → String
  | .defaultNotSupported approach =>
      "default approach " ++ Vocabulary.word approach ++ " is not supported"
  | .noAttempts => "max_failed_attempts must be at least 1"
  | .noTimeout => "backend_timeout_secs must be at least 1"
  | .apiBase text fault => "api base url " ++ text ++ ": " ++ fault.message
  | .redirectBase text fault => "redirect base url " ++ text ++ ": " ++ fault.message
  | .variable name value reason => name ++ "=" ++ value ++ ": " ++ reason
  | .word fault => fault.message
  | .other text => text

inductive Fault
  | storage (fault : StoreFault)
  | serialization
  | invariant (breach : Breach)
  | configuration (fault : ConfigFault)
  | io (reason : String)
  /-- A lifetime or a deadline lies beyond the reach of the calendar. -/
  | beyondCalendar
  deriving DecidableEq, Repr

def Fault.message : Fault → String
  | .storage fault => "Storage error: " ++ fault.message
  | .serialization => "Serialization error"
  | .invariant breach => "Invariant violation: " ++ breach.message
  | .configuration fault => "Configuration error: " ++ fault.message
  | .io reason => "IO error: " ++ reason
  | .beyondCalendar => "Date out of range"

inductive Failure
  | refused (refusal : Refusal)
  | faulted (fault : Fault)
  deriving DecidableEq, Repr

namespace Failure

def message : Failure → String
  | .refused refusal => refusal.display
  | .faulted fault => fault.message

/-- The kind of a refusal; faults have none. -/
def kind? : Failure → Option RefusalKind
  | .refused refusal => some refusal.kind
  | .faulted _ => none

end Failure

end StrongAuth
