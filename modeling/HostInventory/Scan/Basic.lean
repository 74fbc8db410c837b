import HostInventory.Json.Codec
import HostInventory.Log.Event

/-!
# Scans

A scan goes over sources and says which packages it found there and how far it got. Packages of a
kind that is not understood are reported with the name of that kind, so that whoever maps packages
can count what it has to leave out.
-/

namespace HostInventory

inductive ScanSource where
  /-- The database of dpkg below a root directory. -/
  | dpkg (root : String)
deriving Repr, DecidableEq, Inhabited

namespace ScanSource

/-- The name of the kind of a source. -/
def kind : ScanSource → String
  | dpkg _ => "dpkg"

def text : ScanSource → String
  | dpkg root => "dpkg:" ++ root

/-- The JSON form: an object that names the kind first. -/
def toJson : ScanSource → Json
  | dpkg root => .record [("kind", .text "dpkg"), ("root", .text root)]

/-- How deep a value may be nested that is kept until the kind is known. -/
def maxDepth : Nat :=
  127

/-- Reads a source. The kind may stand anywhere in an object, so all values have to be such that
they can be kept; in an array it stands first. -/
def ofJson? (j : Json) : Option ScanSource :=
  if !j.isTextual || maxDepth < j.depth then none
  else do
    match ← j.fields? ["kind", "root"] with
    | [some kind, some root] =>
      if (← kind.toText?) = "dpkg" then return .dpkg (← root.toText?) else none
    | _ => none

end ScanSource

inductive ScanStatus where
  /-- Every source was scanned. -/
  | succeeded
  /-- Something was lost, as the reason says; what was found is usable. -/
  | partly (reason : String)
  /-- Nothing usable was found. -/
  | failed (reason : String)
deriving Repr, DecidableEq, Inhabited

/-- What the database of dpkg says of a package besides name and version. -/
structure DpkgDetails where
  arch : String
  sourceName : String
  sourceVersion : String
  osId : Option String
deriving Repr, DecidableEq, Inhabited

/-- What a scan says of a package besides name and version. -/
inductive PackageDetails where
  | dpkg (details : DpkgDetails)
  /-- Details of a kind that is not understood. -/
  | unsupported (kind : String)
deriving Repr, DecidableEq, Inhabited

structure ScannedPackage where
  name : String
  version : String
  details : PackageDetails
deriving Repr, DecidableEq, Inhabited

structure ScanResult where
  status : ScanStatus
  packages : List ScannedPackage
deriving Repr, DecidableEq, Inhabited

structure Scanner (m : Type → Type) where
  scan : List ScanSource → m ScanResult

end HostInventory
