import HostInventory.FileTree.Error
import HostInventory.FileTree.Operations

/-!
# Temporary files

A temporary file gets a name that nothing in its directory has: a pattern, nine digits and
`.tmp`. The digits are drawn until a name is free. Creating the file is exclusive - the system
refuses a name that is taken by anything, a dangling link included - so a drawn name can collide
but never takes an entry over.
-/

namespace HostInventory

/-- The numbers drawn for names, by the count of draws before. -/
abbrev Draws := Nat → Nat

/-- A temporary file just created: the path that names it, and the place where it is. -/
structure TempFile where
  path : String
  place : Place
deriving Repr, DecidableEq

namespace TempFile

def maxAttempts : Nat :=
  10000

def ending : String :=
  ".tmp"

/-- The name for a drawn number. -/
def name (pattern : String) (number : Nat) : String :=
  pattern ++ String.ofList (Decimal.padded 9 (number % 1000000000)) ++ ending

/-- The path for a drawn number. -/
def pathIn (directory pattern : String) (number : Nat) : String :=
  String.ofList (Path.join directory.toList (name pattern number).toList)

def attempt (t : FileTree) (directory pattern : String) (mode number : Nat) :
    Except SystemError (TempFile × FileTree) := do
  let path := pathIn directory pattern number
  let (place, t') ← t.createNew path mode
  return (⟨path, place⟩, t')

/-- Tries numbers in the order in which they are drawn, at most so many. -/
def createWithin (t : FileTree) (directory pattern : String) (mode : Nat) (draws : Draws) :
    Nat → Nat → Except FileError (TempFile × FileTree)
  | 0, _ => .error (.namesExhausted directory pattern)
  | attempts + 1, drawn =>
    match attempt t directory pattern mode (draws drawn) with
    | .ok created => .ok created
    | .error cause =>
      if cause.kind = .alreadyExists then
        createWithin t directory pattern mode draws attempts (drawn + 1)
      else .error (.opening (pathIn directory pattern (draws drawn)) cause)

def create (t : FileTree) (directory pattern : String) (mode : Nat) (draws : Draws) :
    Except FileError (TempFile × FileTree) :=
  createWithin t directory pattern mode draws maxAttempts 0

end TempFile

end HostInventory
