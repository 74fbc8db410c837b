import HostInventory.Text.Utf8
import HostInventory.System.Error

/-!
# File trees

What a process sees of the file system: entries under the places where they are, its working
directory, and the permission bits that it withholds from new entries. A place is the list of names
from the root downwards, so that an entry has one place however it is reached.

The process owns every entry, and the owner's permission bits bind it.
-/

namespace HostInventory

/-- The names from the root down to an entry. -/
abbrev Place := List String

/-- What stands at a place. -/
inductive Entry where
  | file (mode : Nat) (content : Octets)
  | directory (mode : Nat)
  | link (target : String)
deriving Repr, DecidableEq

namespace Entry

def isDirectory : Entry → Bool
  | directory _ => true
  | _ => false

/-- The permission bits; a link has none of its own. -/
def mode : Entry → Nat
  | file mode _ => mode
  | directory mode => mode
  | link _ => 0o777

def withMode (mode : Nat) : Entry → Entry
  | file _ content => file mode content
  | directory _ => directory mode
  | link target => link target

/-- Whether the owner may read it. -/
def isReadable (e : Entry) : Bool :=
  e.mode &&& 0o400 != 0

/-- Whether the owner may change it. -/
def isWritable (e : Entry) : Bool :=
  e.mode &&& 0o200 != 0

/-- Whether the owner may run it, or look names up in it. -/
def isSearchable (e : Entry) : Bool :=
  e.mode &&& 0o100 != 0

end Entry

/-- The entries that a process sees, and where it stands. -/
structure FileTree where
  entries : List (Place × Entry)
  cwd : Place
  umask : Nat
deriving Repr

namespace FileTree

def get? (t : FileTree) (place : Place) : Option Entry :=
  t.entries.lookup place

def erase (t : FileTree) (place : Place) : FileTree :=
  { t with entries := t.entries.filter (·.1 != place) }

/-- Puts an entry at a place, whatever stood there. -/
def put (t : FileTree) (place : Place) (e : Entry) : FileTree :=
  { t with entries := (place, e) :: (t.erase place).entries }

/-- Takes a place and everything below it away. -/
def eraseBelow (t : FileTree) (place : Place) : FileTree :=
  { t with entries := t.entries.filter fun (p, _) => !place.isPrefixOf p }

def newMode (t : FileTree) (mode : Nat) : Nat :=
  (mode &&& 0o7777) &&& (0o7777 ^^^ (t.umask &&& 0o7777))

/-! ## Looking at places -/

theorem lookup_filter_ne {place other : Place} (es : List (Place × Entry)) (h : other ≠ place) :
    (es.filter (·.1 != place)).lookup other = es.lookup other := by
  induction es with
  | nil => rfl
  | cons e es ih =>
    obtain ⟨p, e⟩ := e
    by_cases hp : p = place
    · subst hp
      have : (other == p) = false := by simpa using h
      simp [List.lookup_cons, this, ih]
    · simp only [List.filter_cons, bne_iff_ne, ne_eq, hp, not_false_eq_true, if_true]
      by_cases ho : other = p
      · subst ho
        simp
      · have : (other == p) = false := by simpa using ho
        simp [List.lookup_cons, this, ih]

theorem lookup_filter_self {place : Place} (es : List (Place × Entry)) :
    (es.filter (·.1 != place)).lookup place = none := by
  induction es with
  | nil => rfl
  | cons e es ih =>
    obtain ⟨p, e⟩ := e
    by_cases hp : p = place
    · subst hp
      simpa using ih
    · have : (place == p) = false := by simpa using fun h : place = p => hp h.symm
      simp [hp, List.lookup_cons, this, ih]

@[simp] theorem get?_erase_self (t : FileTree) (place : Place) :
    (t.erase place).get? place = none :=
  lookup_filter_self t.entries

theorem get?_erase_of_ne (t : FileTree) {place other : Place} (h : other ≠ place) :
    (t.erase place).get? other = t.get? other :=
  lookup_filter_ne t.entries h

@[simp] theorem get?_put_self (t : FileTree) (place : Place) (e : Entry) :
    (t.put place e).get? place = some e := by
  simp [get?, put]

theorem get?_put_of_ne (t : FileTree) {place other : Place} (e : Entry) (h : other ≠ place) :
    (t.put place e).get? other = t.get? other := by
  have hb : (other == place) = false := by simpa using h
  simp only [get?, put, List.lookup_cons, hb, erase]
  exact lookup_filter_ne t.entries h

end FileTree

end HostInventory
