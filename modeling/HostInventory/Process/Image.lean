import HostInventory.FileTree.Operations

/-!
# What a file runs as

A file runs as a program of the machine, which is known by the name of the file, or as a script
whose first line names another program to run it. Its owner has to be allowed to run it. A name
without a slash is looked for in the directories of a search path.

This is what the system does when it is asked to start a file. The programs themselves are those of
`Utility` and `Shell`, and stand for the ones of a host.
-/

namespace HostInventory

inductive Image where
  | native (name : String)
  /-- A script: its interpreter and the words to put in front of its path. -/
  | script (interpreter : String) (words : List String)
deriving Repr, DecidableEq

namespace Image

/-- How the file of a program of the machine begins. -/
def magic : Octets :=
  [0x7F, 0x45, 0x4C, 0x46]

/-- Whether an octet is a space or a tab. -/
def isGap (octet : UInt8) : Bool :=
  octet == 0x20 || octet == 0x09

/-- What stands on the first line of a script behind `#!`: the interpreter, and whatever follows it
as a single word. -/
def ofFirstLine? (line : Octets) : Option Image :=
  let line := ((line.dropWhile isGap).reverse.dropWhile isGap).reverse
  let rest := (line.dropWhile (!isGap ·)).dropWhile isGap
  match line.takeWhile (!isGap ·) with
  | [] => none
  | interpreter =>
    some (.script (Utf8.lossy interpreter) (if rest.isEmpty then [] else [Utf8.lossy rest]))

/-- What a file of a name runs as, if it runs at all. -/
def ofFile? (name : String) (content : Octets) : Option Image :=
  match content with
  | 0x23 :: 0x21 :: rest => ofFirstLine? (rest.takeWhile (· != 0x0A))
  | content => if magic.isPrefixOf content then some (.native name) else none

end Image

namespace FileTree

/-- The file does not begin like anything that runs. -/
def notRunnable : SystemError :=
  .number 8

/-- Refuses a path that does not lead to a file which its owner may run. -/
def checkRunnable (t : FileTree) (path : String) : Except SystemError (Place × Octets) := do
  let place ← t.locate path
  match t.get? place with
  | some (.file mode content) =>
    if (Entry.file mode content).isSearchable then return (place, content)
    else throw .accessDenied
  | _ => throw .accessDenied

/-- The program of the machine that runs when a path is run with words in front of all others, and
the words it gets. Scripts may run each other only so often. -/
def program (t : FileTree) (interpreters : Nat) (name path : String) (args : List String) :
    Except SystemError (String × List String) := do
  let (place, content) ← t.checkRunnable path
  match Image.ofFile? (place.getLast?.getD "") content, interpreters with
  | none, _ => throw notRunnable
  | some (.native program), _ => return (program, name :: args)
  | some (.script _ _), 0 => throw .tooManyLinks
  | some (.script interpreter words), interpreters + 1 =>
    t.program interpreters interpreter interpreter (words ++ path :: args)

/-- How often scripts may run each other. -/
def maxInterpreters : Nat :=
  4

def pathIn (directory name : String) : String :=
  String.ofList (Path.join directory.toList name.toList)

/-- The program for a name in the first of some directories where it can be run. A file that may not
be run is passed over, and remembered as the failure if there is no other. -/
def programAlong (t : FileTree) (failure : SystemError) (name : String) (args : List String) :
    List String → Except SystemError (String × List String)
  | [] => .error failure
  | directory :: directories =>
    match t.program maxInterpreters name (pathIn directory name) args with
    | .error e =>
      if e = .noEntry ∨ e = .notDirectory then programAlong t failure name args directories
      else if e = .accessDenied then programAlong t e name args directories
      else .error e
    | answer => answer

/-- The program that runs for a name, and the words it gets. A name with a slash is a path. -/
def findProgram (t : FileTree) (searchPath : List String) (name : String) (args : List String) :
    Except SystemError (String × List String) :=
  if name.isEmpty then .error .noEntry
  else if name.toList.contains '/' then t.program maxInterpreters name name args
  else if maxName < name.utf8ByteSize then .error .nameTooLong
  else t.programAlong .noEntry name args searchPath

/-- Whether a path leads to a file that somebody may run. -/
def isProgram (t : FileTree) (path : String) : Bool :=
  match (t.locate path).toOption.bind t.get? with
  | some (.file mode _) => mode &&& 0o111 != 0
  | _ => false

end FileTree

end HostInventory
