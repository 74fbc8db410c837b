import HostInventory.Text.Cut

/-!
# Paths

A path is read as text: segments between slashes, of which empty ones and single dots say nothing.
Joining, the parent and the last name go by the text alone; what a path leads to is a matter of
the file tree.
-/

namespace HostInventory.Path

/-- The segment that stays where it is. -/
def here : List Char :=
  ['.']

/-- The segment that leads one directory up. -/
def up : List Char :=
  ['.', '.']

/-- Everything between slashes, empty pieces included. -/
def segments (path : List Char) : List (List Char) :=
  Text.splitAt (· == '/') path

/-- Whether a segment says nothing. -/
def isIdle (segment : List Char) : Bool :=
  segment.isEmpty || segment == here

/-- Whether a path starts at the root. -/
def isAbsolute (path : List Char) : Bool :=
  path.head? == some '/'

/-- A path as seen from a directory. -/
def join (dir path : List Char) : List Char :=
  if isAbsolute path then path
  else if dir.isEmpty || dir.getLast? == some '/' then dir ++ path
  else dir ++ '/' :: path

/-- Splits the start off that no segment after it can take away: the slash of an absolute path,
the dot of a path that begins with the current directory. -/
def cutStart (path : List Char) : List Char × List Char :=
  match path with
  | '/' :: rest => (['/'], rest)
  | ['.'] => (['.'], [])
  | '.' :: '/' :: rest => (['.'], '/' :: rest)
  | path => ([], path)

/-- What precedes the last segment of a reversed text, the slash between them dropped. -/
def beforeLast (reversed : List Char) : List Char :=
  (reversed.dropWhile (· != '/')).drop 1

theorem beforeLast_length {reversed : List Char} (h : reversed ≠ []) :
    (beforeLast reversed).length < reversed.length := by
  cases reversed with
  | nil => exact absurd rfl h
  | cons c rest =>
    have hle : ∀ l : List Char, (l.dropWhile (· != '/')).length ≤ l.length := fun l =>
      (List.dropWhile_sublist _).length_le
    have h1 := hle (c :: rest)
    simp only [beforeLast, List.length_drop, List.length_cons] at *
    omega

/-- Drops idle segments at the end of a reversed text. -/
def skipIdle : List Char → List Char
  | [] => []
  | c :: rest =>
    if isIdle ((c :: rest).takeWhile (· != '/')).reverse then skipIdle (beforeLast (c :: rest))
    else c :: rest
termination_by reversed => reversed.length
decreasing_by exact beforeLast_length (by simp)

/-- The last segment that says something, unless it leads up. -/
def fileName? (path : List Char) : Option (List Char) :=
  match skipIdle (cutStart path).2.reverse with
  | [] => none
  | reversed =>
    let name := (reversed.takeWhile (· != '/')).reverse
    if name == up then none else some name

/-- The path without its last segment that says something; none for the root and for the empty
path. -/
def parent? (path : List Char) : Option (List Char) :=
  let (start, body) := cutStart path
  match skipIdle body.reverse with
  | [] => if start == here then some [] else none
  | reversed => some (start ++ (skipIdle (beforeLast reversed)).reverse)

end HostInventory.Path
