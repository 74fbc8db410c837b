import HostInventory.Shell.Interpreter
import HostInventory.Text.Quoted

/-!
# Machines on which commands run

A machine has files and a search path for programs. A command is started there with its streams
attached to pipes or to a terminal. A terminal is only opened for a program that is known to be
there, since afterwards one could not tell why it did not start.
-/

namespace HostInventory

structure Machine where
  tree : FileTree
  searchPath : List String
deriving Repr

namespace Machine

/-- A machine with the usual utilities beside given files. -/
def usual (tree : FileTree) : Machine :=
  ⟨Utility.install tree,
    ["/usr/local/sbin", "/usr/local/bin", "/usr/sbin", "/usr/bin", "/sbin", "/bin"]⟩

/-- Whether the words of a command can be given to a program at all. -/
def isPassable (c : Command) : Bool :=
  (c.program :: c.args).all fun word => !word.toList.contains '\x00'

/-- What is said of a command whose words cannot be given to a program. -/
def notPassable : String :=
  "nul byte found in provided data"

/-- The life of the process that a program of the machine with its words leads. -/
def life (m : Machine) (a : Attachment) (found : String × List String) : Process :=
  Shell.life m.tree m.searchPath a found.1 found.2

def startPiped (m : Machine) (c : Command) : Except CommandError Process :=
  if !isPassable c then .error (.spawn c.program notPassable)
  else
    match m.tree.findProgram m.searchPath c.program c.args with
    | .ok found => .ok (m.life .pipes found)
    | .error e =>
      .error (if e.kind = .notFound then .notFound c.program else .spawn c.program e.message)

/-- Whether a path says in which directory the file stands. -/
def namesDirectory (path : String) : Bool :=
  let isDotted := (Path.segments path.toList).head? == some Path.here
  let said := (Path.segments path.toList).filter (!Path.isIdle ·)
  Path.isAbsolute path.toList || 1 < said.length + (if isDotted then 1 else 0)

/-- The path of the file that a name stands for, if that is a program. -/
def programPath? (m : Machine) (name : String) : Option String :=
  if namesDirectory name then (if m.tree.isProgram name then some name else none)
  else (m.searchPath.map (FileTree.pathIn · name)).find? m.tree.isProgram

/-- Whether a path begins with the working directory or the one above it. -/
def beginsHere (path : String) : Bool :=
  match (Path.segments path.toList).head? with
  | some first => first == Path.here || first == Path.up
  | none => false

/-- Whether the owner of the machine may run what a path leads to. -/
def mayRun (m : Machine) (path : String) : Bool :=
  (m.tree.checkRunnable path).isOk

/-- The path to run for the path of a program, or why it cannot be run: a relative path is seen from
the working directory if it begins there, and else looked for along the search path. -/
def runnablePath (m : Machine) (path : String) : Except String String :=
  if Path.isAbsolute path.toList then
    if m.mayRun path then .ok path
    else .error ("Unable to spawn " ++ path ++
      " because it is not executable (EACCES: Permission denied)")
  else if beginsHere path then
    let absolute := FileTree.pathIn (Utility.placeText m.tree.cwd) path
    if m.mayRun absolute then .ok absolute
    else .error ("Unable to spawn " ++ absolute ++ " because it is not executable")
  else
    match (m.searchPath.map (FileTree.pathIn · path)).find? m.mayRun with
    | some path => .ok path
    | none =>
      .error ("Unable to spawn " ++ path ++ " because:\nNo viable candidates found in PATH " ++
        Text.quoted (":".intercalate m.searchPath))

/-- Starts a command with a terminal. A file that does not begin like anything that runs is given to
a shell. -/
def startOnTerminal (m : Machine) (rows columns : Nat) (c : Command) :
    Except CommandError Process := do
  let some name := m.programPath? c.program | throw (.notFound c.program)
  let failed (text : String) : CommandError := .spawn c.program text
  let path ← (m.runnablePath name).mapError failed
  if !isPassable c then throw (failed notPassable)
  match m.tree.program FileTree.maxInterpreters name path c.args with
  | .ok found => return m.life (.terminal rows columns) found
  | .error e =>
    if e = FileTree.notRunnable then
      return m.life (.terminal rows columns) ("sh", "/bin/sh" :: path :: c.args)
    throw (failed e.message)

def start (m : Machine) (a : Attachment) (c : Command) : Except CommandError Process :=
  match a with
  | .pipes => m.startPiped c
  | .terminal rows columns => m.startOnTerminal rows columns c

/-- Runs a command to its end or until the caller stops waiting; nothing when neither ever
comes. -/
def run? (m : Machine) (calledOffAt : Option Nat) (a : Attachment) (c : Command) :
    Option (Except CommandError CommandOutput) :=
  match m.start a c with
  | .error e => some (.error e)
  | .ok process => c.await? calledOffAt a process

end Machine

end HostInventory
