import HostInventory.FileTree.Basic
import HostInventory.Path.Basic

/-!
# What a path leads to

A path is followed segment by segment from the root or from the working directory. Symbolic links
on the way are replaced by their targets, at most forty of them. Looking a name up needs the
search permission of the directory.

Two questions are answered: which existing entry a path leads to, its last link followed, and
which directory would hold the entry that the path names, for operations that create, replace or
remove the entry itself.
-/

namespace HostInventory.FileTree

/-- How many links may be followed on the way. -/
def maxLinks : Nat :=
  40

/-- The greatest length of one name, in octets. -/
def maxName : Nat :=
  255

/-- The greatest length of a path, in octets. -/
def maxPath : Nat :=
  4095

/-- Where a path ends. -/
inductive Spot where
  /-- An entry is there. -/
  | taken (place : Place)
  /-- A directory is there, and no entry of the name in it. -/
  | vacant (directory : Place) (name : String)
deriving Repr, DecidableEq

/-- Refuses paths that the system does not take. -/
def checkPath (path : String) : Except SystemError Unit :=
  if path.toList.contains '\x00' then .error .nulInPath
  else if path.isEmpty then .error .noEntry
  else if maxPath < path.utf8ByteSize then .error .nameTooLong
  else .ok ()

def names (path : String) : List String :=
  (Path.segments path.toList).map String.ofList

def startOf (t : FileTree) (path : String) : Place :=
  if Path.isAbsolute path.toList then [] else t.cwd

/-- Whether names can be looked up at a place. -/
def canSearch (t : FileTree) (place : Place) : Bool :=
  ((t.get? place).map fun e => e.isDirectory && e.isSearchable).getD false

def follow (t : FileTree) (links : Nat) (place : Place) (rest : List String) :
    Except SystemError Spot :=
  match rest with
  | [] => .ok (.taken place)
  | name :: rest =>
    if name = "" then follow t links place rest
    else if !canSearch t place then .error .accessDenied
    else if name = "." then follow t links place rest
    else if name = ".." then follow t links place.dropLast rest
    else if maxName < name.utf8ByteSize then .error .nameTooLong
    else
      match t.get? (place ++ [name]) with
      | none => if rest.all (· == "") then .ok (.vacant place name) else .error .noEntry
      | some (.directory _) => follow t links (place ++ [name]) rest
      | some (.file _ _) =>
        if rest.isEmpty then .ok (.taken (place ++ [name])) else .error .notDirectory
      | some (.link target) =>
        match links with
        | 0 => .error .tooManyLinks
        | links + 1 =>
          let from' := if Path.isAbsolute target.toList then [] else place
          follow t links from' (names target ++ rest)
termination_by (links, rest.length)

/-- The spot at the end of a path, the last link followed. -/
def spot (t : FileTree) (path : String) : Except SystemError Spot := do
  checkPath path
  follow t maxLinks (t.startOf path) (names path)

/-- The place of the existing entry that a path leads to, the last link followed. -/
def locate (t : FileTree) (path : String) : Except SystemError Place := do
  match ← t.spot path with
  | .taken place => return place
  | .vacant _ _ => throw .noEntry

inductive LastName where
  /-- A name, with a note of whether slashes follow it. -/
  | name (name : String) (slashed : Bool)
  /-- The root, the directory itself or the one above. -/
  | special
deriving Repr, DecidableEq

/-- The names in front of the last one, and the last one. -/
def cutLast (path : String) : List String × LastName :=
  let all := names path
  let reversed := all.reverse.dropWhile (· == "")
  match reversed with
  | [] => ([], .special)
  | last :: front =>
    if last = "." ∨ last = ".." then (front.reverse, .special)
    else (front.reverse, .name last (reversed.length != all.length))

/-- The directory that holds the entry which a path names, the last link not followed, and the
last name. -/
def locateParent (t : FileTree) (path : String) : Except SystemError (Place × LastName) := do
  checkPath path
  let (front, last) := cutLast path
  match ← follow t maxLinks (t.startOf path) front with
  | .vacant _ _ => throw .noEntry
  | .taken place =>
    match t.get? place with
    | some (.directory _) => if canSearch t place then return (place, last) else throw .accessDenied
    | _ => throw .notDirectory

/-- The place of the entry that a path names, the last link not followed. -/
def locateEntry (t : FileTree) (path : String) : Except SystemError Place := do
  match ← t.locateParent path with
  | (_, .special) => t.locate path
  | (place, .name name slashed) =>
    if slashed then t.locate path
    else if maxName < name.utf8ByteSize then throw .nameTooLong
    else
      match t.get? (place ++ [name]) with
      | some _ => return place ++ [name]
      | none => throw .noEntry

end HostInventory.FileTree
