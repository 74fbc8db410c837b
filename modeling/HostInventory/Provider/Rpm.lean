import HostInventory.Provider.Basic
import HostInventory.Text.Blank
import HostInventory.Text.Cut

/-!
# Installed packages of rpm

`rpmquery` prints one line of three words for each package: name, architecture and version. Lines
with another number of words are skipped.
-/

namespace HostInventory.Rpm

def program : String :=
  "/usr/bin/rpmquery"

/-- The format of a line; an epoch is written in front of the version. -/
def queryFormat : String :=
  "%\x7bNAME\x7d %\x7bARCH\x7d %|EPOCH?\x7b%\x7bEPOCH\x7d:\x7d:\x7b\x7d|" ++
    "%\x7bVERSION\x7d-%\x7bRELEASE\x7d\n"

def readLine (line : List Char) : Reading :=
  match Text.words line with
  | [] => .silent
  | [name, arch, version] =>
    .package (.ofFields (String.ofList name) (String.ofList arch) (String.ofList version))
  | _ =>
    .foreign ⟨.debug, "line does not represent an rpm", [("line", .text (String.ofList line))]⟩

def readings (data : Octets) : List Reading :=
  (Text.lines (Utf8.lossyChars data)).map readLine

def parseInstalled (data : Octets) : List Package :=
  (readings data).filterMap Reading.package?

def command (timeout : Option Duration) : Command :=
  .bounded timeout program ["--queryformat", queryFormat, "-a"]

def fileCommand (timeout : Option Duration) (path : String) : Command :=
  .bounded timeout program ["--queryformat", queryFormat, "-p", path]

def installed {m : Type → Type} [Monad m] [MonadLog m] (runner : Runner m)
    (timeout : Option Duration) : m (Except QueryError (List Package)) := do
  match ← runner.stdout (command timeout) with
  | .error e => return .error e
  | .ok stdout =>
    let packages := parseInstalled stdout
    reportAll ((readings stdout).filterMap Reading.complaint?)
    report (countEvent "rpm packages parsed" packages)
    return .ok packages

/-- The answer when a package file did not give exactly one package. -/
def unexpectedCount (packages : List Package) (stdout : Octets) : QueryError :=
  .parse ("unexpected number of parsed rpm packages " ++ Decimal.text packages.length ++ ": " ++
    Text.quoted (Utf8.lossy stdout))

/-- Asks for the package in a package file. -/
def packageInfo {m : Type → Type} [Monad m] [MonadLog m] (runner : Runner m)
    (timeout : Option Duration) (path : String) : m (Except QueryError Package) := do
  match ← runner.stdout (fileCommand timeout path) with
  | .error e => return .error e
  | .ok stdout =>
    reportAll ((readings stdout).filterMap Reading.complaint?)
    match parseInstalled stdout with
    | [package] => return .ok package
    | packages => return .error (unexpectedCount packages stdout)

/-- The provider that asks for the installed packages. -/
def provider {m : Type → Type} [Monad m] [MonadLog m] (reader : FileReader m) (runner : Runner m)
    (timeout : Option Duration) : Provider m where
  manager := .rpm
  isAvailable := reader.has program
  packages := installed runner timeout

end HostInventory.Rpm
