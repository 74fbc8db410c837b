import HostInventory.FileTree.Operations
import HostInventory.Process.Basic

/-!
# Utilities of the machine

A utility is started with words and reads one source; it leaves its life as a process and what it
did not read. Sources may go on for ever, so a reader takes as much as it needs.

The utilities are not part of the inventory, which starts whatever programs a host has. They stand
for the usual ones, so that a command can be run to its end without a host; what is proved about
commands holds of any outcome and does not depend on them.
-/

namespace HostInventory

inductive Source where
  /-- Octets, and then others over and over unless there are none. -/
  | octets (content refrain : Octets)
  /-- A terminal at which nobody types. -/
  | terminal
deriving Repr, DecidableEq

namespace Source

def nothing : Source :=
  octets [] []

/-- The first octets of a source and what follows them; nothing when the reader waits for ever. -/
def take? (count : Nat) : Source → Option (Octets × Source)
  | octets content refrain =>
    let missing := count - content.length
    if missing = 0 || refrain.isEmpty then
      some (content.take count, octets (content.drop count) refrain)
    else
      let content := content ++ (List.replicate (missing / refrain.length + 1) refrain).flatten
      some (content.take count, octets (content.drop count) refrain)
  | terminal => if count = 0 then some ([], terminal) else none

/-- All octets of a source; nothing when it never comes to an end. -/
def all? : Source → Option Octets
  | octets content refrain => if refrain.isEmpty then some content else none
  | terminal => none

/-- Splits octets behind so many line ends. -/
def splitLines : Nat → Octets → Octets × Octets
  | 0, rest => ([], rest)
  | _ + 1, [] => ([], [])
  | count + 1, octet :: rest =>
    let (taken, rest) := splitLines (if octet = 10 then count else count + 1) rest
    (octet :: taken, rest)

/-- The first lines of a source, line ends included, and what follows them; nothing when the reader
waits for ever. A source that goes on for ever is taken to repeat a line. -/
def takeLines? (count : Nat) : Source → Option (Octets × Source)
  | octets content refrain =>
    let content :=
      if refrain.isEmpty then content else content ++ (List.replicate count refrain).flatten
    let (taken, rest) := splitLines count content
    some (taken, octets rest refrain)
  | terminal => if count = 0 then some ([], terminal) else none

/-- What is read from a path: a file, or one of the two devices that are always there. -/
def ofPath (t : FileTree) (path : String) : Except SystemError Source :=
  if path = "/dev/null" then .ok nothing
  else if path = "/dev/zero" then .ok (octets [] [0])
  else (t.read path).map (octets · [])

end Source

namespace Utility

structure Call where
  tree : FileTree
  /-- The name that it was called by, with which it begins its complaints. -/
  name : String
  args : List String
  input : Source
  /-- Which of its three streams, in their usual order, are a terminal. -/
  terminals : List Nat
  rows : Nat
  columns : Nat
deriving Repr

/-- The life of a utility and what it did not read. -/
structure Work where
  life : Process
  rest : Source
deriving Repr

namespace Call

/-- Ends with a status after writing octets. -/
def writes (c : Call) (octets : Octets) (status : UInt8) : Work :=
  ⟨⟨[(.standard, octets)], 0, .ends (.exited status)⟩, c.input⟩

def prints (c : Call) (text : String) : Work :=
  c.writes (Utf8.encode text) 0

def complains (c : Call) (complaint : String) (status : UInt8) : Work :=
  ⟨⟨[(.errors, Utf8.encode (c.name ++ ": " ++ complaint ++ "\n"))], 0, .ends (.exited status)⟩,
    c.input⟩

/-- Ends with a status and without a word. -/
def ends (c : Call) (status : UInt8) : Work :=
  ⟨⟨[], 0, .ends (.exited status)⟩, c.input⟩

/-- Never ends, and writes octets over and over. -/
def repeats (c : Call) (refrain : Octets) : Work :=
  ⟨⟨[], 0, .endless refrain⟩, c.input⟩

end Call

/-- The text of a failure without its number. -/
def failureText (e : SystemError) : String :=
  match e with
  | .number n => (SystemError.numberTexts.lookup n).getD ""
  | e => e.message

end Utility

end HostInventory
