import HostInventory.Package.Basic

/-!
# Package lists by manager

One list for each manager. Setting a list replaces it; the lists of the other managers stay.
-/

namespace HostInventory

/-- The packages that each manager reported. -/
structure PackageLists where
  apt : List Package
  deb : List Package
  rpm : List Package
  yum : List Package
deriving Repr, DecidableEq, Inhabited

namespace PackageLists

def empty : PackageLists :=
  ⟨[], [], [], []⟩

def get (lists : PackageLists) : Manager → List Package
  | .apt => lists.apt
  | .deb => lists.deb
  | .rpm => lists.rpm
  | .yum => lists.yum

/-- Replaces the list of one manager. -/
def set (lists : PackageLists) (manager : Manager) (packages : List Package) : PackageLists :=
  match manager with
  | .apt => { lists with apt := packages }
  | .deb => { lists with deb := packages }
  | .rpm => { lists with rpm := packages }
  | .yum => { lists with yum := packages }

/-- All packages, by manager in the order of the fields. -/
def toList (lists : PackageLists) : List Package :=
  lists.apt ++ lists.deb ++ lists.rpm ++ lists.yum

def size (lists : PackageLists) : Nat :=
  lists.toList.length

def isEmpty (lists : PackageLists) : Bool :=
  lists.toList.isEmpty

theorem get_set_same (lists : PackageLists) (m : Manager) (ps : List Package) :
    (lists.set m ps).get m = ps := by
  cases m <;> rfl

theorem get_set_other (lists : PackageLists) {m n : Manager} (ps : List Package) (h : n ≠ m) :
    (lists.set m ps).get n = lists.get n := by
  cases m <;> cases n <;> first | rfl | exact absurd rfl h

theorem eq_of_get {a b : PackageLists} (h : ∀ m, a.get m = b.get m) : a = b := by
  obtain ⟨apt, deb, rpm, yum⟩ := a
  obtain rfl : apt = _ := h .apt
  obtain rfl : deb = _ := h .deb
  obtain rfl : rpm = _ := h .rpm
  obtain rfl : yum = _ := h .yum
  rfl

theorem mem_toList {lists : PackageLists} {p : Package} :
    p ∈ lists.toList ↔ ∃ m, p ∈ lists.get m := by
  simp only [toList, List.mem_append]
  constructor
  · rintro (((h | h) | h) | h)
    · exact ⟨.apt, h⟩
    · exact ⟨.deb, h⟩
    · exact ⟨.rpm, h⟩
    · exact ⟨.yum, h⟩
  · rintro ⟨m, h⟩
    cases m
    · exact .inl (.inl (.inl h))
    · exact .inl (.inl (.inr h))
    · exact .inl (.inr h)
    · exact .inr h

end PackageLists

end HostInventory
