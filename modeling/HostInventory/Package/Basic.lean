import HostInventory.Text.Blank
import HostInventory.Text.Lowercase

/-!
# Packages

One installed or updatable unit of software, the key by which two inventories are compared, and
the manager that reported it. Keys are ordered by name, then architecture, then version; texts are
ordered by code points, which is the order of their octets.

Managers write the same architecture in different ways. Its canonical name is the written one
without surrounding blanks, in lower case, with known aliases replaced; a name that is not known
stands for itself.
-/

namespace HostInventory

namespace Architecture

/-- Other names of an architecture and the canonical one. -/
def aliases : List (String × String) := [
  ("noarch", "all"), ("any", "all"),
  ("amd64", "x86_64"), ("x86-64", "x86_64"), ("64-bit", "x86_64"),
  ("386", "x86_32"), ("i386", "x86_32"), ("i686", "x86_32"), ("32-bit", "x86_32"),
  ("arm64", "aarch64")]

def canonical (written : String) : String :=
  let name := String.ofList (Text.lowercase (Text.trim written.toList))
  (aliases.lookup name).getD name

end Architecture

/-- The source package that a package was built from. -/
structure SourcePackage where
  name : String
  version : String
deriving Repr, DecidableEq, Inhabited

/-- A package as an inventory lists it: `arch` is the canonical name of its architecture,
`rawArch` the name that its manager writes. -/
structure Package where
  name : String
  arch : String
  rawArch : String
  version : String
  source : SourcePackage
deriving Repr, DecidableEq, Inhabited

namespace Package

/-- A package without a known source. -/
def ofFields (name rawArch version : String) : Package :=
  { name, arch := Architecture.canonical rawArch, rawArch, version, source := ⟨"", ""⟩ }

def withSource (p : Package) (name version : String) : Package :=
  { p with source := ⟨name, version⟩ }

/-- What makes two packages the same one. -/
structure Key where
  name : String
  arch : String
  version : String
deriving Repr, DecidableEq, Inhabited

namespace Key

/-- Name, architecture and version, the first difference deciding. -/
def Less (a b : Key) : Prop :=
  a.name < b.name ∨
    (a.name = b.name ∧ (a.arch < b.arch ∨ (a.arch = b.arch ∧ a.version < b.version)))

instance (a b : Key) : Decidable (a.Less b) := by
  unfold Less
  infer_instance

def text (k : Key) : String :=
  k.name ++ " " ++ k.arch ++ " " ++ k.version

end Key

def key (p : Package) : Key :=
  ⟨p.name, p.arch, p.version⟩

def text (p : Package) : String :=
  p.key.text

end Package

/-- Who reports packages: the update lists of apt and yum, the databases of dpkg and rpm. -/
inductive Manager where
  | apt
  | deb
  | rpm
  | yum
deriving Repr, DecidableEq, Inhabited

def Manager.name : Manager → String
  | apt => "apt"
  | deb => "deb"
  | rpm => "rpm"
  | yum => "yum"

def Manager.ofName? : String → Option Manager
  | "apt" => some apt
  | "deb" => some deb
  | "rpm" => some rpm
  | "yum" => some yum
  | _ => none

theorem Manager.ofName?_name (m : Manager) : ofName? m.name = some m := by
  cases m <;> rfl

end HostInventory
