import StrongAuth.Codec.Event
import StrongAuth.Time.Written

/-! # The audit trail

Every event becomes one line, either a summary or a JSON object with the time and the
event, and goes to a file, to the diagnostics, or to a callback. -/

namespace StrongAuth

/-! ## Lines -/

def Event.summary : Event → String
  | .created authorisation parent approach =>
      authorisation ++ " created for " ++ parent ++ " (" ++ approach ++ ")"
  | .statusChanged authorisation _ earlier later =>
      authorisation ++ " sca status " ++ earlier ++ " -> " ++ later
  | .refused authorisation kind message =>
      authorisation ++ " refused " ++ Vocabulary.word kind ++ ": " ++ message
  | .expired authorisation parent => authorisation ++ " of " ++ parent ++ " expired"
  | .parentChanged parent earlier later =>
      parent ++ " status " ++ earlier ++ " -> " ++ later

namespace Audit

def sortMembers : Json → Json
  | .object members => .object (members.mergeSort fun left right => left.1 ≤ right.1)
  | other => other

def plainLine (stamp : String) (event : Event) : String :=
  "[" ++ stamp ++ "] " ++ event.summary

def structuredLine (stamp : String) (event : Event) : String :=
  (Json.object [("event", sortMembers (Codec.toJson event)), ("timestamp", .text stamp)]).compact

/-- The line of an event. Summaries show milliseconds, JSON lines the exact time. -/
def line (structured : Bool) (now : Time.Timestamp) (event : Event) : String :=
  if structured then structuredLine now.offsetText event else plainLine now.millisText event

/-! ## Files -/

/-- What a file holds once lines have been appended to it. -/
def fileText (lines : List String) : String :=
  String.ofList (lines.flatMap fun line => line.toList ++ ['\n'])

/-- A line without the carriage return of its end. -/
def dropReturn (line : List Char) : List Char :=
  if line.getLast? = some '\r' then line.dropLast else line

/-- The lines that a reader of a file finds. An end without a line break is a line of its own,
and a carriage return in front of a line break belongs to the break. -/
def fileLines (text : String) : List String :=
  let pieces := text.toList.splitOn '\n'
  let ended := pieces.dropLast.map fun line => String.ofList (dropReturn line)
  match pieces.getLast? with
  | some (char :: rest) => ended ++ [String.ofList (char :: rest)]
  | _ => ended

/-! ## Destinations -/

inductive Level
  | error
  | warn
  | info
  | debug
  | trace
  deriving DecidableEq, Repr

instance : Vocabulary Level where
  values := [.error, .warn, .info, .debug, .trace]
  word
    | .error => "Error"
    | .warn => "Warn"
    | .info => "Info"
    | .debug => "Debug"
    | .trace => "Trace"
  mem_values value := by cases value <;> simp
  word_injective left right equal := by
    cases left <;> cases right <;> simp at equal ⊢

def Level.mark (level : Level) : String :=
  (Vocabulary.word level).toUpper

inductive Destination
  | diagnostics
  /-- Appended to a file. -/
  | file (path : String)
  | callback
  deriving DecidableEq, Repr

inductive Sink
  | diagnostics (level : Level)
  | file
  | callback
  deriving DecidableEq, Repr

structure Config where
  destination : Destination
  structured : Bool
  level : Level
  deriving DecidableEq, Repr

/-- The sink of a configuration. A file that cannot be opened leaves the lines to the
diagnostics as errors. -/
def Config.sink (config : Config) (openable : Bool) : Sink :=
  match config.destination with
  | .diagnostics => .diagnostics config.level
  | .callback => .callback
  | .file _ => if openable then .file else .diagnostics .error

/-! ## Descriptions -/

def boolText (value : Bool) : String :=
  if value then "true" else "false"

def Destination.text : Destination → String
  | .diagnostics => "Tracing"
  | .file path => "File \x7b path: \"" ++ path ++ "\" \x7d"
  | .callback => "Custom(..)"

def Config.text (config : Config) : String :=
  "EventLoggerConfig \x7b destination: " ++ config.destination.text ++ ", structured: " ++
    boolText config.structured ++ ", log_level: " ++ Vocabulary.word config.level ++ " \x7d"

def Sink.text : Sink → String
  | .diagnostics _ => "tracing"
  | .file => "file"
  | .callback => "custom"

def describe (structured : Bool) (sink : Sink) : String :=
  "EventLogger \x7b structured: " ++ boolText structured ++ ", sink: \"" ++ sink.text ++
    "\" \x7d"

end Audit

end StrongAuth
