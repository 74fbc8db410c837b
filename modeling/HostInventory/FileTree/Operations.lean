import HostInventory.FileTree.Resolve
import HostInventory.Text.Blank

/-!
# Operations on file trees

Reading and changing files, directories and links by path. An operation that fails leaves the tree
as it was.
-/

namespace HostInventory.FileTree

/-- Whether entries can be added to and removed from a directory. -/
def canChange (t : FileTree) (place : Place) : Bool :=
  ((t.get? place).map fun e => e.isDirectory && e.isWritable && e.isSearchable).getD false

def leadsSomewhere (t : FileTree) (path : String) : Bool :=
  (t.locate path).isOk

/-- Whether a path that is not blank leads to an entry. -/
def has (t : FileTree) (path : String) : Bool :=
  !Text.isBlankText path.toList && t.leadsSomewhere path

def read (t : FileTree) (path : String) : Except SystemError Octets := do
  let place ← t.locate path
  match t.get? place with
  | some (.file mode content) =>
    if (Entry.file mode content).isReadable then return content else throw .accessDenied
  | some (.directory mode) =>
    if (Entry.directory mode).isReadable then throw .isDirectory else throw .accessDenied
  | _ => throw .noEntry

def readText (t : FileTree) (path : String) : Except SystemError String := do
  let octets ← t.read path
  match Utf8.decode? octets with
  | some text => return text
  | none => throw .notText

/-- Creates an empty file that was not there, and gives its place. -/
def createNew (t : FileTree) (path : String) (mode : Nat) :
    Except SystemError (Place × FileTree) := do
  match ← t.locateParent path with
  | (_, .special) => throw .isDirectory
  | (_, .name _ true) => throw .isDirectory
  | (directory, .name name false) =>
    if maxName < name.utf8ByteSize then throw .nameTooLong
    let place := directory ++ [name]
    if (t.get? place).isSome then throw .entryExists
    if !t.canChange directory then throw .accessDenied
    return (place, t.put place (.file (t.newMode mode) []))

/-- Writes a whole file, which is created if it is not there. -/
def write (t : FileTree) (path : String) (content : Octets) : Except SystemError FileTree := do
  if path.endsWith "/" then throw .isDirectory
  match ← t.spot path with
  | .taken place =>
    match t.get? place with
    | some (.file mode old) =>
      if (Entry.file mode old).isWritable then return t.put place (.file mode content)
      else throw .accessDenied
    | _ => throw .isDirectory
  | .vacant directory name =>
    if !t.canChange directory then throw .accessDenied
    return t.put (directory ++ [name]) (.file (t.newMode 0o666) content)

/-- Adds octets at the end of the file at a place, which has been opened before. -/
def append (t : FileTree) (place : Place) (octets : Octets) : FileTree :=
  match t.get? place with
  | some (.file mode content) => t.put place (.file mode (content ++ octets))
  | _ => t

/-- Sets the permission bits of the entry that a path leads to. -/
def setMode (t : FileTree) (path : String) (mode : Nat) : Except SystemError FileTree := do
  let place ← t.locate path
  match t.get? place with
  | some e => return t.put place (e.withMode (mode &&& 0o7777))
  | none => throw .noEntry

/-- Moves an entry that is no directory to another path and replaces what was there, unless that is
a directory. -/
def rename (t : FileTree) (source target : String) : Except SystemError FileTree := do
  let (sourceDir, sourceLast) ← t.locateParent source
  let (targetDir, targetLast) ← t.locateParent target
  match sourceLast, targetLast with
  | .name sourceName sourceSlashed, .name targetName targetSlashed =>
    if maxName < sourceName.utf8ByteSize then throw .nameTooLong
    match t.get? (sourceDir ++ [sourceName]) with
    | none => throw .noEntry
    | some entry =>
      if maxName < targetName.utf8ByteSize then throw .nameTooLong
      if entry.isDirectory then throw .isDirectory
      if sourceSlashed || targetSlashed then throw .notDirectory
      if !t.canChange sourceDir || !t.canChange targetDir then throw .accessDenied
      if ((t.get? (targetDir ++ [targetName])).map Entry.isDirectory).getD false then
        throw .isDirectory
      return (t.erase (sourceDir ++ [sourceName])).put (targetDir ++ [targetName]) entry
  | _, _ => throw .busy

/-- Removes an entry that is no directory. -/
def unlink (t : FileTree) (path : String) : Except SystemError FileTree := do
  match ← t.locateParent path with
  | (_, .special) => throw .isDirectory
  | (directory, .name name slashed) =>
    if maxName < name.utf8ByteSize then throw .nameTooLong
    match t.get? (directory ++ [name]) with
    | none => throw .noEntry
    | some entry =>
      if entry.isDirectory then throw .isDirectory
      if slashed then throw .notDirectory
      if !t.canChange directory then throw .accessDenied
      return t.erase (directory ++ [name])

/-- Removes an entry with everything below it. -/
def removeAll (t : FileTree) (path : String) : Except SystemError FileTree := do
  let place ← t.locateEntry path
  if place.isEmpty || place == t.cwd then throw .busy
  if !t.canChange place.dropLast then throw .accessDenied
  return t.eraseBelow place

def makeDirectory (t : FileTree) (path : String) : Except SystemError FileTree := do
  match ← t.locateParent path with
  | (_, .special) => throw .entryExists
  | (directory, .name name _) =>
    if maxName < name.utf8ByteSize then throw .nameTooLong
    let place := directory ++ [name]
    if (t.get? place).isSome then throw .entryExists
    if !t.canChange directory then throw .accessDenied
    return t.put place (.directory (t.newMode 0o777))

def leadsToDirectory (t : FileTree) (path : String) : Bool :=
  match t.locate path with
  | .ok place => ((t.get? place).map Entry.isDirectory).getD false
  | .error _ => false

/-- Creates a directory, unless it is there already. -/
def ensureDirectory (t : FileTree) (path : String) : Except SystemError FileTree :=
  match t.makeDirectory path with
  | .ok t' => .ok t'
  | .error e => if t.leadsToDirectory path then .ok t else .error e

/-- A path and the paths above it, the longest first, down from a bound on their number. -/
def ancestors : Nat → List Char → List (List Char)
  | 0, _ => []
  | _, [] => []
  | n + 1, path => path :: ancestors n ((Path.parent? path).getD [])

/-- Creates a directory and those above it that are missing. -/
def makeDirectories (t : FileTree) (path : String) : Except SystemError FileTree :=
  let paths := (ancestors (path.length + 1) path.toList).map String.ofList
  let missing := paths.takeWhile fun p =>
    match t.ensureDirectory p with
    | .error e => e.kind == .notFound
    | .ok _ => false
  let known := (paths.drop missing.length).take 1
  (known ++ missing.reverse).foldlM ensureDirectory t

def symlink (t : FileTree) (target path : String) : Except SystemError FileTree := do
  checkPath target
  match ← t.locateParent path with
  | (_, .special) => throw .entryExists
  | (directory, .name name slashed) =>
    if maxName < name.utf8ByteSize then throw .nameTooLong
    let place := directory ++ [name]
    if (t.get? place).isSome then throw .entryExists
    if slashed then throw .noEntry
    if !t.canChange directory then throw .accessDenied
    return t.put place (.link target)

end HostInventory.FileTree
