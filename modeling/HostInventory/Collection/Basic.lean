import HostInventory.Collection.Comparison
import HostInventory.Collection.Timestamp
import HostInventory.Package.Lists

/-!
# Collections

The result of one round of questions: the packages that were reported, whoever failed to report,
and in a verifying round the comparison with the extraction.
-/

namespace HostInventory

/-- How installed packages of dpkg are found. -/
inductive ExtractionMode where
  /-- By asking dpkg. -/
  | legacy
  /-- By extraction alone. -/
  | structured
  /-- By asking dpkg, the answer compared with an extraction. -/
  | verify
deriving Repr, DecidableEq, Inhabited

namespace ExtractionMode

/-- The mode where nothing is said. -/
def standard : ExtractionMode :=
  .legacy

/-- The name of a mode in data. -/
def name : ExtractionMode → String
  | legacy => "legacy"
  | structured => "structured"
  | verify => "verify"

/-- The name of a mode in messages. -/
def title : ExtractionMode → String
  | legacy => "Legacy"
  | structured => "Structured"
  | verify => "Verify"

def ofName? : String → Option ExtractionMode
  | "legacy" => some legacy
  | "structured" => some structured
  | "verify" => some verify
  | _ => none

/-- The JSON form of a mode: its name. -/
def toJson (mode : ExtractionMode) : Json :=
  .text mode.name

def ofJson? (j : Json) : Option ExtractionMode := do
  ofName? (← j.toName?)

end ExtractionMode

/-- Someone who did not report, or not all. -/
structure CollectionFailure where
  source : String
  message : String
deriving Repr, DecidableEq, Inhabited

namespace CollectionFailure

def toJson (f : CollectionFailure) : Json :=
  .record [("source", .text f.source), ("message", .text f.message)]

/-- Reads a failure; both fields have to be there. -/
def ofJson? (j : Json) : Option CollectionFailure := do
  match ← j.fields? ["source", "message"] with
  | [some source, some message] => return ⟨← source.toText?, ← message.toText?⟩
  | _ => none

def event (f : CollectionFailure) : Event :=
  ⟨.warn, "collection step failed", [("source", .text f.source), ("error", .text f.message)]⟩

end CollectionFailure

structure Collection where
  packages : PackageLists
  failures : List CollectionFailure
  comparison : Option Comparison
  collectedAt : Timestamp
deriving Repr, DecidableEq, Inhabited

namespace Collection

/-- A collection before anyone was asked. -/
def start (collectedAt : Timestamp) : Collection :=
  ⟨.empty, [], none, collectedAt⟩

/-- Whether everyone reported. -/
def isComplete (c : Collection) : Bool :=
  c.failures.isEmpty

def withFailure (c : Collection) (f : CollectionFailure) : Collection :=
  { c with failures := c.failures ++ [f] }

def withPackages (c : Collection) (manager : Manager) (packages : List Package) : Collection :=
  { c with packages := c.packages.set manager packages }

/-- The JSON members of a collection except its time; without failures and without a comparison
their members are left out. -/
def members (c : Collection) : List (String × Json) :=
  [("packages", c.packages.toJson)] ++
    (if c.failures.isEmpty then []
     else [("failures", .array (c.failures.map CollectionFailure.toJson))]) ++
    (match c.comparison with
     | some comparison => [("comparison", comparison.toJson)]
     | none => [])

def toJson (c : Collection) : Json :=
  .record (c.members ++ [("collected_at", .text c.collectedAt.text)])

end Collection

end HostInventory
