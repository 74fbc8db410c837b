import HostInventory.Config.Basic
import HostInventory.Json.Printer
import HostInventory.Log.Filter
import HostInventory.Text.Quoted

/-!
# Writing log lines

The log is set up once. Its filter comes from the environment, or from the configuration where the
environment names none that can be read. Each event that passes becomes one line, as text or as a
JSON object.
-/

namespace HostInventory

inductive LogError where
  /-- The configured level is not a filter. -/
  | invalidLevel (level : String)
  /-- The log is set up already. -/
  | alreadySet
deriving Repr, DecidableEq

def LogError.message : LogError → String
  | invalidLevel level => "invalid log level " ++ Text.quoted level
  | alreadySet => "a global default trace dispatcher has already been set"

/-- A value as a text line shows it. -/
def FieldValue.shown : FieldValue → String
  | text s => Text.quoted s
  | count n => (count n).plain
  | flag b => (flag b).plain

def FieldValue.toJson : FieldValue → Json
  | text s => .text s
  | count n => .nat n
  | flag b => .bool b

namespace Event

/-- The part of a text line after the time. -/
def lineBody (e : Event) (target : String) : String :=
  let level := e.level.name
  String.ofList (List.replicate (5 - level.length) ' ') ++ level ++ " " ++ target ++ ": " ++
    " ".intercalate (e.message :: e.fields.map fun (name, value) => name ++ "=" ++ value.shown)

def toJson (e : Event) (time target : String) : Json :=
  .record [("timestamp", .text time), ("level", .text e.level.name),
    ("fields", .record (("message", .text e.message) ::
      e.fields.map fun (name, value) => (name, value.toJson))),
    ("target", .text target)]

def line (e : Event) (format : LogFormat) (time target : String) : String :=
  match format with
  | .text => time ++ " " ++ e.lineBody target
  | .json => (e.toJson time target).compact

end Event

structure LogWriter where
  filter : LogFilter
  format : LogFormat
deriving Repr, DecidableEq

namespace LogWriter

/-- The filter to use, given what the environment says. -/
def chooseFilter (environment : Option String) (level : String) : Except LogError LogFilter :=
  match environment.bind LogFilter.ofText? with
  | some filter => .ok filter
  | none =>
    match LogFilter.ofText? level with
    | some filter => .ok filter
    | none => .error (.invalidLevel level)

/-- Sets up the log, given the log that is set up already, if any. -/
def init (current : Option LogWriter) (environment : Option String) (c : AgentConfig) :
    Except LogError LogWriter := do
  let filter ← chooseFilter environment c.logLevel
  if current.isSome then throw .alreadySet
  return ⟨filter, c.logFormat⟩

/-- The line of an event, if it passes. -/
def write? (w : LogWriter) (time target : String) (e : Event) : Option String :=
  if w.filter.admits target e then some (e.line w.format time target) else none

end LogWriter

end HostInventory
