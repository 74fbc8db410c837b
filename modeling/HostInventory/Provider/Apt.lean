import HostInventory.Provider.Basic
import HostInventory.Text.Blank
import HostInventory.Text.Cut

/-!
# Updates of apt

The package lists are refreshed first; then `apt list --upgradable` prints a line for each update:
name and suite with a slash between them, the new version, the architecture, and the version it
replaces. Headings and warnings are passed over.
-/

namespace HostInventory.Apt

def refreshProgram : String :=
  "/usr/bin/apt-get"

def listProgram : String :=
  "/usr/bin/apt"

def readLine (line : List Char) : Reading :=
  if line.isEmpty || Text.hasPrefix "Listing".toList line ||
      Text.hasPrefix "WARNING".toList line then
    .silent
  else
    match Text.words line with
    | first :: version :: arch :: _ =>
      let name :=
        match Text.cutAt? (· == '/') first with
        | some (name, _) => name
        | none => first
      .package (.ofFields (String.ofList name) (String.ofList arch) (String.ofList version))
    | _ =>
      .foreign ⟨.debug, "skipping unrecognized apt line", [("line", .text (String.ofList line))]⟩

def readings (text : List Char) : List Reading :=
  (Text.lines text).map readLine

/-- The updates among the lines of a text. -/
def parseUpgradable (text : List Char) : List Package :=
  (readings text).filterMap Reading.package?

def refreshCommand (timeout : Option Duration) : Command :=
  .bounded timeout refreshProgram ["update", "-qq"]

def listCommand (timeout : Option Duration) : Command :=
  .bounded timeout listProgram ["list", "--upgradable"]

def updates {m : Type → Type} [Monad m] [MonadLog m] (runner : Runner m)
    (timeout : Option Duration) : m (Except QueryError (List Package)) := do
  report ⟨.debug, "refreshing package lists", []⟩
  match ← runner.stdout (refreshCommand timeout) with
  | .error e => return .error e
  | .ok _ =>
    match ← runner.stdout (listCommand timeout) with
    | .error e => return .error e
    | .ok stdout =>
      let text := Utf8.lossyChars stdout
      let packages := parseUpgradable text
      reportAll ((readings text).filterMap Reading.complaint?)
      report (countEvent "apt updates parsed" packages)
      return .ok packages

def provider {m : Type → Type} [Monad m] [MonadLog m] (reader : FileReader m) (runner : Runner m)
    (timeout : Option Duration) : Provider m where
  manager := .apt
  isAvailable := reader.has listProgram
  packages := updates runner timeout

end HostInventory.Apt
