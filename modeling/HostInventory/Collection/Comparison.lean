import HostInventory.Json.Printer
import HostInventory.Log.Event
import HostInventory.Package.Codec

/-!
# Comparing two inventories

Two lists of packages are compared by key: what only the one has, and what only the other has, in
the order of the keys. Within one list the last package with a key counts. The result depends on
the lists only through their lengths and through the last package for each key.
-/

namespace HostInventory

namespace Package

/-- Packages by key, the keys strictly ascending. -/
abbrev Index := List (Key × Package)

namespace Index

def insert (p : Package) : Index → Index
  | [] => [(p.key, p)]
  | (k, q) :: rest =>
    if p.key = k then (k, p) :: rest
    else if p.key.Less k then (p.key, p) :: (k, q) :: rest
    else (k, q) :: insert p rest

def contains (index : Index) (k : Key) : Bool :=
  index.any (·.1 == k)

/-- The index of a list; of packages with one key the last is kept. -/
def ofList (packages : List Package) : Index :=
  packages.foldl (fun index p => insert p index) []

/-- The packages whose keys another index does not have. -/
def without (index other : Index) : List Package :=
  (index.filter fun (k, _) => !other.contains k).map (·.2)

end Index

end Package

/-- What two inventories differ in: `legacy` is the list of the parser, `modern` that of the
extraction. Counts are those of the lists, repeated keys included. -/
structure Comparison where
  legacyCount : Nat
  modernCount : Nat
  legacyExtra : List Package
  modernExtra : List Package
deriving Repr, DecidableEq, Inhabited

namespace Comparison

def ofLists (legacy modern : List Package) : Comparison :=
  let legacyIndex := Package.Index.ofList legacy
  let modernIndex := Package.Index.ofList modern
  ⟨legacy.length, modern.length, legacyIndex.without modernIndex, modernIndex.without legacyIndex⟩

/-- Whether both lists have the same keys. -/
def isConsistent (c : Comparison) : Bool :=
  c.legacyExtra.isEmpty && c.modernExtra.isEmpty

def toJson (c : Comparison) : Json :=
  .record [("legacy_items_count", .nat c.legacyCount), ("modern_items_count", .nat c.modernCount),
    ("legacy_extra", .array (c.legacyExtra.map Package.toJson)),
    ("modern_extra", .array (c.modernExtra.map Package.toJson))]

/-- What is said about a comparison: its figures, then all of it. -/
def events (c : Comparison) : List Event := [
  ⟨.info, "comparison results after inventory extraction",
    [("legacy", .count c.legacyCount), ("modern", .count c.modernCount),
      ("consistent", .flag c.isConsistent)]⟩,
  ⟨.info, c.toJson.pretty, []⟩]

end Comparison

end HostInventory
