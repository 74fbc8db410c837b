import HostInventory.System.Error
import HostInventory.Text.Quoted
import HostInventory.Text.Utf8

/-!
# Access to files by path, and why it failed

What the library needs of a file system is given for an arbitrary monad: the running program
supplies the real one, a file tree another.

A failure names the step that failed and the paths of that step, and keeps what the system said.
Running out of names for a temporary file is the only failure without an answer of the system.
-/

namespace HostInventory

inductive FileError where
  /-- A temporary file could not be opened. -/
  | opening (path : String) (cause : SystemError)
  /-- Every name tried for a temporary file was taken. -/
  | namesExhausted (directory pattern : String)
  /-- A replacement could not get its temporary file. -/
  | creatingTemp (cause : FileError)
  /-- The content did not get into the temporary file. -/
  | writing (path : String) (cause : SystemError)
  /-- The temporary file did not get its permission bits. -/
  | settingMode (path : String) (cause : SystemError)
  /-- The temporary file did not get to its target. -/
  | moving (source target : String) (cause : SystemError)
  /-- The working directory is not known. -/
  | workingDirectory (cause : SystemError)
deriving Repr, DecidableEq

namespace FileError

def message : FileError → String
  | opening path cause => "open " ++ path ++ ": " ++ cause.message
  | namesExhausted directory pattern =>
    "no unused temp file name for pattern " ++ Text.quoted pattern ++ " in " ++ directory
  | creatingTemp cause => "unable to create temp file: " ++ cause.message
  | writing path cause => "unable to write temp file " ++ path ++ ": " ++ cause.message
  | settingMode path cause => "unable to set permissions on " ++ path ++ ": " ++ cause.message
  | moving source target cause =>
    "unable to rename " ++ source ++ " to " ++ target ++ ": " ++ cause.message
  | workingDirectory cause => "unable to determine working directory: " ++ cause.message

/-- What the system said, when it was asked. -/
def systemCause? : FileError → Option SystemError
  | opening _ cause => some cause
  | namesExhausted _ _ => none
  | creatingTemp cause => cause.systemCause?
  | writing _ cause => some cause
  | settingMode _ cause => some cause
  | moving _ _ cause => some cause
  | workingDirectory cause => some cause

end FileError

/-- A failure as text, with a stand-in where there is none. -/
def failureText (failure : Option String) : String :=
  failure.getD "<nil>"

structure FileReader (m : Type → Type) where
  /-- The text of a file. -/
  readText : String → m (Except SystemError String)
  /-- Whether a path that is not blank leads to an entry. -/
  has : String → m Bool

structure FileWriter (m : Type → Type) where
  /-- Puts a file with the given content and permission bits at a path. -/
  replace : String → Octets → Nat → m (Except FileError Unit)

end HostInventory
