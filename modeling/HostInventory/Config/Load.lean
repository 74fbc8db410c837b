import HostInventory.Config.Basic
import HostInventory.FileTree.Error
import HostInventory.Path.Basic

/-!
# Finding the configuration

The configuration is in the file that the environment names, or else in the first of the usual
places where something is. Where nothing is in any of them all defaults hold. A file that is there
but cannot be used is an error and is not passed over.
-/

namespace HostInventory

inductive ConfigError where
  | unreadable (path : String) (cause : SystemError)
  /-- The text is not a configuration. -/
  | invalid (path : String)
deriving Repr, DecidableEq

namespace ConfigError

/-- The error as text, without its cause. -/
def message : ConfigError → String
  | unreadable path _ => "failed to read config " ++ path
  | invalid path => "failed to parse config " ++ path

/-- The error as text, with what the system said. -/
def fullMessage : ConfigError → String
  | unreadable path cause => "failed to read config " ++ path ++ ": " ++ cause.message
  | invalid path => (invalid path).message

end ConfigError

/-- Where the environment says the configuration is. -/
structure ConfigEnvironment where
  /-- The file, if one is named. -/
  path : Option String
  /-- The directory for configurations of the user, if there is one. -/
  directory : Option String
deriving Repr, DecidableEq

namespace Config

variable {m : Type → Type} [Monad m]

def load (reader : FileReader m) (path : String) : m (Except ConfigError Config) := do
  match ← reader.readText path with
  | .error cause => return .error (.unreadable path cause)
  | .ok text =>
    match parse? text with
    | some c => return .ok c
    | none => return .error (.invalid path)

/-- The usual places, in the order in which they are looked at. -/
def usualPaths (environment : ConfigEnvironment) : List String :=
  ["hostkeep.toml", "/etc/hostkeep/hostkeep.toml"] ++
    (match environment.directory with
     | some directory =>
       [String.ofList (Path.join directory.toList "hostkeep/hostkeep.toml".toList)]
     | none => [])

def loadFirst (reader : FileReader m) : List String → m (Except ConfigError Config)
  | [] => return .ok standard
  | path :: rest => do
    if ← reader.has path then load reader path else loadFirst reader rest

def find (reader : FileReader m) (environment : ConfigEnvironment) :
    m (Except ConfigError Config) :=
  match environment.path with
  | some path => load reader path
  | none => loadFirst reader (usualPaths environment)

end Config

end HostInventory
