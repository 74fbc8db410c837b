import HostInventory.Collection.Collector
import HostInventory.FileTree.Error
import HostInventory.Json.Printer

/-!
# Collection passes

One pass collects the installed packages and the updates, puts both with the time into one document,
and replaces the state file by it. The document is put together in a buffer that is kept from pass
to pass; it is emptied before a document goes into it, so nothing of an earlier document is left.
A pass that cannot write says so and leaves the state file alone.
-/

namespace HostInventory

/-- Memory that is kept between documents: its content and how much it has room for. -/
structure Buffer where
  content : Octets
  room : Nat
deriving Repr, DecidableEq

namespace Buffer

def none : Buffer :=
  ⟨[], 0⟩

/-- Drops the content and keeps the room. -/
def clear (b : Buffer) : Buffer :=
  { b with content := [] }

/-- Adds octets at the end, making room where there is too little. -/
def append (b : Buffer) (octets : Octets) : Buffer :=
  let content := b.content ++ octets
  ⟨content, max b.room content.length⟩

/-- Drops the content and gives the room back. -/
def release (b : Buffer) : Buffer :=
  { b.clear with room := 0 }

end Buffer

/-- What a pass writes. -/
structure InventoryState where
  installed : Collection
  updates : Collection
  writtenAt : Timestamp
deriving Repr, DecidableEq

namespace InventoryState

def toJson (s : InventoryState) : Json :=
  .record [("installed", s.installed.toJson), ("updates", s.updates.toJson),
    ("written_at", .text s.writtenAt.text)]

def document (s : InventoryState) : Octets :=
  Utf8.encode s.toJson.pretty

end InventoryState

def stateFileMode : Nat :=
  0o644

structure PassError where
  stateFile : String
  cause : FileError
deriving Repr, DecidableEq

def PassError.message (e : PassError) : String :=
  "failed to write " ++ e.stateFile ++ ": " ++ e.cause.message

section

variable {m : Type → Type} [Monad m] [MonadLog m] [MonadClock m]

def Collector.survey (collector : Collector m) : m InventoryState := do
  let installed ← collector.installedPackages
  let updates ← collector.packageUpdates
  return ⟨installed, updates, ← MonadClock.now⟩

/-- Puts a document into the buffer in place of what was there. -/
def InventoryState.intoBuffer (s : InventoryState) (b : Buffer) : Buffer :=
  b.clear.append s.document

/-- One pass; with the buffer as it leaves it. -/
def Collector.pass (collector : Collector m) (files : FileWriter m) (stateFile : String)
    (b : Buffer) : m (Buffer × Except PassError Unit) := do
  let state ← collector.survey
  let b := state.intoBuffer b
  match ← files.replace stateFile b.content stateFileMode with
  | .error cause => return (b, .error ⟨stateFile, cause⟩)
  | .ok () =>
    report ⟨.info, "inventory state written",
      [("installed", .count state.installed.packages.size),
        ("updates", .count state.updates.packages.size)]⟩
    return (b, .ok ())

end

end HostInventory
