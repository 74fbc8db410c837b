import HostInventory.FileTree.Error
import HostInventory.Log.Event
import HostInventory.Package.Lists
import HostInventory.Provider.Error

/-!
# Providers of packages

A provider asks one manager for packages by running commands. Runners, and with them everything
that asks through them, are given for an arbitrary monad: the running program supplies one that
starts processes, a test one that answers from a script.
-/

namespace HostInventory

structure Runner (m : Type → Type) where
  run : Command → m (Except CommandError CommandOutput)

structure Provider (m : Type → Type) where
  manager : Manager
  isAvailable : m Bool
  packages : m (Except QueryError (List Package))

/-- A command with the time bound that a provider was given, if any. -/
def Command.bounded (timeout : Option Duration) (program : String) (args : List String) : Command :=
  ⟨program, args, timeout⟩

def Runner.stdout {m : Type → Type} [Monad m] (runner : Runner m) (c : Command) :
    m (Except QueryError Octets) := do
  match ← runner.run c with
  | .ok output => return .ok output.stdout
  | .error cause => return .error (.ofCommand c cause)

inductive Reading where
  | package (p : Package)
  /-- Nothing, as headings and empty lines do. -/
  | silent
  /-- Something that does not belong into the listing. -/
  | foreign (complaint : Event)
deriving Repr, DecidableEq

namespace Reading

def package? : Reading → Option Package
  | package p => some p
  | _ => none

def complaint? : Reading → Option Event
  | foreign complaint => some complaint
  | _ => none

end Reading

def countEvent (message : String) (packages : List Package) : Event :=
  ⟨.debug, message, [("count", .count packages.length)]⟩

end HostInventory
