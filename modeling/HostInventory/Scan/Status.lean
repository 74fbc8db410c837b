import HostInventory.FileTree.Error
import HostInventory.Path.Basic
import HostInventory.Scan.Basic
import HostInventory.Scan.Error
import HostInventory.Scan.Stanza

/-!
# The status database of dpkg

Below a root directory dpkg keeps a document with one stanza for each package it knows. A stanza
whose status ends in `installed` stands for an installed package and has to have a name and a
version; one that lacks them is counted as malformed. Beside the database the identity of the
distribution is read, which may be absent.

Scanning several roots puts their packages together in the order of the roots. A root whose
database cannot be read gives nothing, and the scan failed when that holds for all of them.
-/

namespace HostInventory.StatusDatabase

/-- Whether a status says that the package is installed: three words, of which the last decides. -/
def isInstalled (status : List Char) : Bool :=
  match Text.words status with
  | [_, _, word] => word == "installed".toList
  | _ => false

/-- The name of a source package and its version in parentheses, if there is one. -/
def readSource (value : List Char) : List Char × Option (List Char) :=
  match Text.cutAt? (· == '(') value with
  | some (name, version) =>
    (Text.trim name, some (Text.trim (Text.dropEndWhile (· == ')') version)))
  | none => (Text.trim value, none)

inductive Entry where
  | package (p : ScannedPackage)
  /-- An installed package without name or version. -/
  | malformed
  /-- A package that is not installed. -/
  | absent
deriving Repr, DecidableEq

/-- The name and the version of the source package: those of the package where nothing else is
said. -/
def sourceOf (s : Stanza) (name version : List Char) : List Char × List Char :=
  match s.get? "Source".toList with
  | none => (name, version)
  | some value =>
    let (sourceName, sourceVersion) := readSource value
    (sourceName, sourceVersion.getD version)

def readStanza (osId : Option String) (s : Stanza) : Entry :=
  if !((s.get? "Status".toList).map isInstalled).getD false then .absent
  else
    match s.get? "Package".toList, s.get? "Version".toList with
    | some name, some version =>
      let (sourceName, sourceVersion) := sourceOf s name version
      .package {
        name := String.ofList name
        version := String.ofList version
        details := .dpkg {
          arch := String.ofList ((s.get? "Architecture".toList).getD [])
          sourceName := String.ofList sourceName
          sourceVersion := String.ofList sourceVersion
          osId := osId } }
    | _, _ => .malformed

def Entry.package? : Entry → Option ScannedPackage
  | package p => some p
  | _ => none

/-- What was found below one root. -/
structure Findings where
  packages : List ScannedPackage
  malformed : Nat
deriving Repr, DecidableEq, Inhabited

def findings (text : List Char) (osId : Option String) : Findings :=
  let entries := (Stanza.ofText text).map (readStanza osId)
  ⟨entries.filterMap Entry.package?, entries.count .malformed⟩

/-- The identity in one line of a release document, quotes around it dropped. -/
def osIdOfLine? (line : List Char) : Option (List Char) :=
  match Text.afterPrefix? ['I', 'D', '='] line with
  | none => none
  | some value =>
    let id := Text.dropEndWhile (· == '"') ((Text.trim value).dropWhile (· == '"'))
    if id.isEmpty then none else some id

/-- The first identity in a release document. -/
def osId? (text : List Char) : Option String :=
  ((Text.lines text).findSome? osIdOfLine?).map String.ofList

def below (root path : String) : String :=
  String.ofList (Path.join root.toList path.toList)

def statusPath (root : String) : String :=
  below root "var/lib/dpkg/status"

def releasePath (root : String) : String :=
  below root "etc/os-release"

def unreadableReason (path : String) (cause : SystemError) : String :=
  if cause.kind = .notFound then path ++ " does not exist"
  else (InventoryError.unreadable path cause.message).message

/-- The identity of the distribution below a root. -/
def readOsId {m : Type → Type} [Monad m] [MonadLog m] (reader : FileReader m) (root : String) :
    m (Option String) := do
  match ← reader.readText (releasePath root) with
  | .ok text => return osId? text.toList
  | .error cause =>
    if cause.kind = .notFound then return none
    else
      let error := (InventoryError.unreadable (releasePath root) cause.message).message
      report ⟨.debug, "os-release unavailable", [("error", .text error)]⟩
      return none

/-- What is found below one root, or why there is nothing. -/
def scanRoot {m : Type → Type} [Monad m] [MonadLog m] (reader : FileReader m) (root : String) :
    m (Except String Findings) := do
  match ← reader.readText (statusPath root) with
  | .error cause => return .error (unreadableReason (statusPath root) cause)
  | .ok text =>
    let osId ← readOsId reader root
    return .ok (findings text.toList osId)

/-- What is wrong with a source, if anything is. -/
def problem? (source : ScanSource) : Except String Findings → Option String
  | .ok found =>
    if found.malformed = 0 then none
    else some (source.text ++ ": " ++ Decimal.text found.malformed ++
      " entries without package or version")
  | .error reason => some (source.text ++ ": " ++ reason)

/-- The outcome of a scan, put together from the outcomes of its sources. -/
def summarize (outcomes : List (ScanSource × Except String Findings)) : ScanResult :=
  let problems := outcomes.filterMap fun (source, outcome) => problem? source outcome
  let packages := outcomes.flatMap fun (_, outcome) =>
    match outcome with
    | .ok found => found.packages
    | .error _ => []
  let reason := "; ".intercalate problems
  let status : ScanStatus :=
    if problems.isEmpty then .succeeded
    else if outcomes.all fun (_, outcome) => !outcome.isOk then .failed reason
    else .partly reason
  ⟨status, packages⟩

/-- The outcome of each source, failures reported as they are met. -/
def scanEach {m : Type → Type} [Monad m] [MonadLog m] (reader : FileReader m) :
    List ScanSource → m (List (ScanSource × Except String Findings))
  | [] => return []
  | .dpkg root :: rest => do
    let outcome ← scanRoot reader root
    match outcome with
    | .ok _ => pure ()
    | .error reason =>
      report ⟨.warn, "dpkg scan failed",
        [("source", .text (ScanSource.dpkg root).text), ("reason", .text reason)]⟩
    return (.dpkg root, outcome) :: (← scanEach reader rest)

def scanner {m : Type → Type} [Monad m] [MonadLog m] (reader : FileReader m) : Scanner m where
  scan sources := return summarize (← scanEach reader sources)

end HostInventory.StatusDatabase
