import HostInventory.FileTree.Error
import HostInventory.Path.Basic

/-!
# Normal forms of paths

A path is made absolute by the working directory and cleaned without looking at any file. In the
style with slashes, its components are put behind one another, from the empty path on, and leading
up goes back to the parent. In the style with drives nothing is cleaned: the path gets the prefix
that lifts the limit on its length, and backslashes throughout.

The running process asks for its working directory only when a path does not start at the root, so
that a process whose directory is gone can still name absolute paths.

A path that comes from outside is rid of the segments at its beginning that lead up. Slashes and
backslashes both count as separators there, and a separator in front is kept.
-/

namespace HostInventory.Path

inductive Style where
  /-- Slashes, and a slash for the root. -/
  | slashes
  /-- Backslashes, drive letters and the long-path prefix. -/
  | drives
deriving Repr, DecidableEq

inductive Component where
  | root
  /-- The current directory in front of a path; a dot further back says nothing. -/
  | here
  | up
  | name (segment : List Char)
deriving Repr, DecidableEq

namespace Component

/-- The component that the start of a path stands for, if it has one. -/
def ofStart? (start : List Char) : Option Component :=
  if isAbsolute start then some root
  else if start == Path.here then some here
  else none

/-- The component that a segment behind the start stands for, if it says anything. -/
def ofSegment? (segment : List Char) : Option Component :=
  if isIdle segment then none
  else if segment == Path.up then some up
  else some (name segment)

def text : Component → List Char
  | root => ['/']
  | here => Path.here
  | up => Path.up
  | name segment => segment

end Component

/-- What a path is made of, in order. -/
def components (path : List Char) : List Component :=
  let (start, body) := cutStart path
  (Component.ofStart? start).toList ++ (segments body).filterMap Component.ofSegment?

/-- A cleaned path with one more component behind it. Leading up takes the last segment away,
whatever it is; with nothing to take away it stays at a root and is kept elsewhere. -/
def follow (path : List Char) : Component → List Char
  | .here => path
  | .up =>
    match parent? path with
    | some parent => parent
    | none => if isAbsolute path then path else join path Component.up.text
  | component => join path component.text

/-- A path with its components put behind one another. -/
def clean (path : List Char) : List Char :=
  (components path).foldl follow []

/-- The prefix that lifts the limit on the length of a path. -/
def longPrefix : List Char :=
  ['\\', '\\', '?', '\\']

/-- Whether a path of the style with drives starts at a root or a drive. -/
def isDriveAbsolute : List Char → Bool
  | '\\' :: _ => true
  | '/' :: _ => true
  | letter :: ':' :: c :: _ => letter.isAlpha && (c == '\\' || c == '/')
  | _ => false

/-- The long form of a path, seen from a directory. -/
def longForm (cwd path : List Char) : List Char :=
  if Text.hasPrefix longPrefix path then path
  else
    let absolute :=
      if isDriveAbsolute path then path
      else Text.dropEndWhile (fun c => c == '/' || c == '\\') cwd ++ '/' :: path
    longPrefix ++ absolute.map fun c => if c = '/' then '\\' else c

/-- The normal form of a path, seen from a working directory. -/
def normalizeChars (style : Style) (cwd path : List Char) : List Char :=
  match style with
  | .slashes => clean (join cwd path)
  | .drives => longForm cwd path

/-- The normal form of a path, seen from a working directory. -/
def normalize (style : Style) (cwd path : String) : String :=
  String.ofList (normalizeChars style cwd.toList path.toList)

/-- The normal form of a path, given what the system answers for the working directory. -/
def absolute (cwd : Except SystemError String) (path : String) : Except FileError String :=
  if isAbsolute path.toList then .ok (normalize .slashes "" path)
  else
    match cwd with
    | .ok cwd => .ok (normalize .slashes cwd path)
    | .error cause => .error (.workingDirectory cause)

/-! ## Taking leading traversal away -/

/-- Whether a character separates segments in paths of either convention. -/
def isSeparator (c : Char) : Bool :=
  c == '/' || c == '\\'

/-- Drops every leading pair of dots that a separator or the end follows. -/
def dropTraversal : List Char → List Char
  | ['.', '.'] => []
  | '.' :: '.' :: c :: rest => if isSeparator c then dropTraversal rest else '.' :: '.' :: c :: rest
  | path => path

def sanitizeChars : List Char → List Char
  | [] => []
  | c :: rest => if isSeparator c then c :: dropTraversal rest else dropTraversal (c :: rest)

/-- The path without leading traversal. -/
def sanitize (path : String) : String :=
  String.ofList (sanitizeChars path.toList)

end HostInventory.Path
