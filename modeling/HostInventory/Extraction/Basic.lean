import HostInventory.Package.Codec
import HostInventory.Scan.Basic
import HostInventory.Scan.Error

/-!
# Extraction

A scan result becomes inventory items. A failed scan is an error; a package that has no mapping is
counted and left out; a scan that got part of the way keeps its items together with the reason.

An item has a package URL, which names a package of a distribution in one text: its namespace, name
and version, and its architecture if that is known.
-/

namespace HostInventory

/-- The namespace of packages whose distribution is not known. -/
def unknownNamespace : String :=
  "linux"

/-- The namespace for the identity of a distribution. -/
def packageNamespace (osId : Option String) : String :=
  match osId with
  | some id => if id.isEmpty then unknownNamespace else id
  | none => unknownNamespace

def packageUrl (name version arch : String) (osId : Option String) : String :=
  "pkg:deb/" ++ packageNamespace osId ++ "/" ++ name ++ "@" ++ version ++
    (if arch.isEmpty then "" else "?arch=" ++ arch)

/-- A package in the shape in which a scan describes it. -/
structure InventoryItem where
  name : String
  version : String
  rawArch : String
  source : SourcePackage
  purl : String
deriving Repr, DecidableEq, Inhabited

namespace InventoryItem

def toPackage (item : InventoryItem) : Package :=
  (Package.ofFields item.name item.rawArch item.version).withSource item.source.name
    item.source.version

def ofScanned (p : ScannedPackage) : Except InventoryError InventoryItem :=
  match p.details with
  | .dpkg details => .ok {
      name := p.name
      version := p.version
      rawArch := details.arch
      source := ⟨details.sourceName, details.sourceVersion⟩
      purl := packageUrl p.name p.version details.arch details.osId }
  | .unsupported kind => .error (.unsupported p.name kind)

def toJson (item : InventoryItem) : Json :=
  .record [("name", .text item.name), ("version", .text item.version),
    ("raw_arch", .text item.rawArch), ("source", item.source.toJson), ("purl", .text item.purl)]

/-- Reads an item; all fields have to be there. -/
def ofJson? (j : Json) : Option InventoryItem := do
  match ← j.fields? ["name", "version", "raw_arch", "source", "purl"] with
  | [some name, some version, some rawArch, some source, some purl] =>
    return ⟨← name.toText?, ← version.toText?, ← rawArch.toText?, ← SourcePackage.ofJson? source,
      ← purl.toText?⟩
  | _ => none

end InventoryItem

/-- What a scan gave: the mapped items, how many packages have no mapping, and what was lost. -/
structure Extraction where
  items : List InventoryItem
  skipped : Nat
  partialFailure : Option String
deriving Repr, DecidableEq, Inhabited

namespace Extraction

def packages (e : Extraction) : List Package :=
  e.items.map InventoryItem.toPackage

def isComplete (e : Extraction) : Bool :=
  e.partialFailure.isNone

def itemsOf (scanned : List ScannedPackage) : List InventoryItem :=
  scanned.filterMap fun p => (InventoryItem.ofScanned p).toOption

/-- Why packages are left out, in their order. -/
def skipsOf (scanned : List ScannedPackage) : List InventoryError :=
  scanned.filterMap fun p =>
    match InventoryItem.ofScanned p with
    | .ok _ => none
    | .error e => some e

def ofScanned (scanned : List ScannedPackage) (partialFailure : Option String) : Extraction :=
  ⟨itemsOf scanned, (skipsOf scanned).length, partialFailure⟩

def ofScan (result : ScanResult) : Except InventoryError Extraction :=
  match result.status with
  | .failed reason => .error (.scanFailed reason)
  | .partly reason => .ok (ofScanned result.packages (some reason))
  | .succeeded => .ok (ofScanned result.packages none)

/-- What is said about a package that is left out. -/
def skipEvent (e : InventoryError) : Event :=
  ⟨.debug, "skipping inventory item", [("error", .text e.message)]⟩

/-- What is said about an extraction of scanned packages. -/
def events (scanned : List ScannedPackage) (e : Extraction) : List Event :=
  (skipsOf scanned).map skipEvent ++
    (if e.skipped = 0 then []
     else [⟨.warn, "some scanned items could not be mapped", [("skipped", .count e.skipped)]⟩]) ++
    [⟨.debug, "structured extraction finished", [("items", .count e.items.length)]⟩]

end Extraction

/-- Takes an inventory by its own means. -/
structure Extractor (m : Type → Type) where
  extract : m (Except InventoryError Extraction)

/-- The extractor that maps what a scanner finds in given sources. -/
def Scanner.extractor {m : Type → Type} [Monad m] [MonadLog m] (scanner : Scanner m)
    (sources : List ScanSource) : Extractor m where
  extract := do
    let result ← scanner.scan sources
    match Extraction.ofScan result with
    | .error e => return .error e
    | .ok extraction =>
      reportAll (Extraction.events result.packages extraction)
      return .ok extraction

end HostInventory
