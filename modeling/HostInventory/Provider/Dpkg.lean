import HostInventory.Package.Codec
import HostInventory.Provider.Basic
import HostInventory.Text.Cut

/-!
# Installed packages of dpkg

`dpkg-query` prints one line for each package after a template. The template asks for a JSON
object, which is why any text in a field that needs no escape in JSON survives. Only packages whose
status is `installed` count; lines that are no such object are skipped.
-/

namespace HostInventory.Dpkg

def program : String :=
  "/usr/bin/dpkg-query"

/-- The fields of a line and the selector that fills each. -/
def fields : List (String × String) := [
  ("package", "$\x7bPackage\x7d"),
  ("architecture", "$\x7bArchitecture\x7d"),
  ("version", "$\x7bVersion\x7d"),
  ("status", "$\x7bdb:Status-Status\x7d"),
  ("source_name", "$\x7bsource:Package\x7d"),
  ("source_version", "$\x7bsource:Version\x7d")]

def fieldTemplate (name selector : String) : String :=
  "\"" ++ name ++ "\":\"" ++ selector ++ "\""

def insertSorted (s : String) : List String → List String
  | [] => [s]
  | t :: rest => if s ≤ t then s :: t :: rest else t :: insertSorted s rest

def sortTexts (texts : List String) : List String :=
  texts.foldr insertSorted []

/-- The template that prints an object with the given fields. Fields are sorted, so that their
order in the list makes no difference. -/
def template (fields : List (String × String)) : String :=
  "\\\x7b" ++ ",".intercalate (sortTexts (fields.map fun (name, sel) => fieldTemplate name sel)) ++
    "\\\x7d\n"

/-- What one line says of a package. -/
structure Row where
  package : String
  architecture : String
  version : String
  status : String
  sourceName : String
  sourceVersion : String
deriving Repr, DecidableEq

/-- Reads a row; the two fields of the source may be absent. -/
def Row.ofJson? (j : Json) : Option Row := do
  match ← j.fields? ["package", "architecture", "version", "status", "source_name",
      "source_version"] with
  | [some package, some architecture, some version, some status, sourceName, sourceVersion] =>
    let sourceName ← match sourceName with
      | some name => name.toText?
      | none => some ""
    let sourceVersion ← match sourceVersion with
      | some version => version.toText?
      | none => some ""
    return ⟨← package.toText?, ← architecture.toText?, ← version.toText?, ← status.toText?,
      sourceName, sourceVersion⟩
  | _ => none

def Row.toPackage (r : Row) : Package :=
  (Package.ofFields r.package r.architecture r.version).withSource r.sourceName r.sourceVersion

/-- The complaint about a line that is no row. What the JSON reader has against the line is not part
of it: `Json.parse?` only says that it cannot read it. -/
def undecodable (line : String) : Event :=
  ⟨.debug, "skipping undecodable dpkg-query line", [("line", .text line)]⟩

def readLine (line : List Char) : Reading :=
  let line := Text.trim line
  if line.isEmpty then .silent
  else
    let text := String.ofList line
    match (Json.parse? text).bind Row.ofJson? with
    | none => .foreign (undecodable text)
    | some row => if row.status = "installed" then .package row.toPackage else .silent

def readings (data : Octets) : List Reading :=
  (Text.lines (Utf8.lossyChars data)).map readLine

def parseInstalled (data : Octets) : List Package :=
  (readings data).filterMap Reading.package?

def command (timeout : Option Duration) : Command :=
  .bounded timeout program ["-W", "-f", template fields]

def installed {m : Type → Type} [Monad m] [MonadLog m] (runner : Runner m)
    (timeout : Option Duration) : m (Except QueryError (List Package)) := do
  match ← runner.stdout (command timeout) with
  | .error e => return .error e
  | .ok stdout =>
    let packages := parseInstalled stdout
    reportAll ((readings stdout).filterMap Reading.complaint?)
    report (countEvent "dpkg packages parsed" packages)
    return .ok packages

/-- The provider that asks for the installed packages. -/
def provider {m : Type → Type} [Monad m] [MonadLog m] (reader : FileReader m) (runner : Runner m)
    (timeout : Option Duration) : Provider m where
  manager := .deb
  isAvailable := reader.has program
  packages := installed runner timeout

end HostInventory.Dpkg
