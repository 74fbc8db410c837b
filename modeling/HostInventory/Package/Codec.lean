import HostInventory.Json.Codec
import HostInventory.Package.Lists

/-!
# Packages in JSON

The written form of packages and package lists. A list that is empty is left out and read back as
empty; a package without a source is read as one whose source has empty fields.
-/

namespace HostInventory

def SourcePackage.toJson (s : SourcePackage) : Json :=
  .record [("name", .text s.name), ("version", .text s.version)]

/-- Reads a source package; both fields have to be there. -/
def SourcePackage.ofJson? (j : Json) : Option SourcePackage := do
  match ← j.fields? ["name", "version"] with
  | [some name, some version] => return ⟨← name.toText?, ← version.toText?⟩
  | _ => none

namespace Package

def toJson (p : Package) : Json :=
  .record [("name", .text p.name), ("arch", .text p.arch), ("raw_arch", .text p.rawArch),
    ("version", .text p.version), ("source", p.source.toJson)]

/-- Reads a package; only the source may be absent. -/
def ofJson? (j : Json) : Option Package := do
  match ← j.fields? ["name", "arch", "raw_arch", "version", "source"] with
  | [some name, some arch, some rawArch, some version, source] =>
    let source ← match source with
      | some source => SourcePackage.ofJson? source
      | none => some ⟨"", ""⟩
    return ⟨← name.toText?, ← arch.toText?, ← rawArch.toText?, ← version.toText?, source⟩
  | _ => none

def Key.toJson (k : Key) : Json :=
  .record [("name", .text k.name), ("arch", .text k.arch), ("version", .text k.version)]

/-- Reads a key; all fields have to be there. -/
def Key.ofJson? (j : Json) : Option Key := do
  match ← j.fields? ["name", "arch", "version"] with
  | [some name, some arch, some version] =>
    return ⟨← name.toText?, ← arch.toText?, ← version.toText?⟩
  | _ => none

end Package

/-- The JSON form of a manager: its name. -/
def Manager.toJson (m : Manager) : Json :=
  .text m.name

def Manager.ofJson? (j : Json) : Option Manager := do
  Manager.ofName? (← j.toName?)

namespace PackageLists

/-- The member for one list, left out when the list is empty. -/
def listMember (name : String) : List Package → List (String × Json)
  | [] => []
  | packages => [(name, .array (packages.map Package.toJson))]

def toJson (lists : PackageLists) : Json :=
  .record (listMember "apt" lists.apt ++ listMember "deb" lists.deb ++
    listMember "rpm" lists.rpm ++ listMember "yum" lists.yum)

/-- Reads one list; an absent list is empty. -/
def listOfJson? : Option Json → Option (List Package)
  | none => some []
  | some j => j.toListOf? Package.ofJson?

def ofJson? (j : Json) : Option PackageLists := do
  match ← j.fields? ["apt", "deb", "rpm", "yum"] with
  | [apt, deb, rpm, yum] =>
    return ⟨← listOfJson? apt, ← listOfJson? deb, ← listOfJson? rpm, ← listOfJson? yum⟩
  | _ => none

end PackageLists

end HostInventory
