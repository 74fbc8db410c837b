import HostInventory.Command.Basic
import HostInventory.Text.Quoted

/-!
# Why a command did not succeed

The causes are kept apart so that a caller can tell a missing program, a failing program and a
caller who stopped waiting from each other without reading a message.
-/

namespace HostInventory

inductive CommandError where
  /-- No such program. -/
  | notFound (program : String)
  /-- The program ended by itself with a status other than zero. -/
  | exitStatus (code : Int) (output : CommandOutput)
  /-- A signal ended the program. -/
  | terminated (output : CommandOutput)
  /-- The caller called the command off. -/
  | canceled (program : String)
  /-- The command ran past its time. -/
  | timeout (timeout : Duration)
  /-- The program was there but could not be started. -/
  | spawn (program message : String)
  /-- Collecting the output failed. -/
  | io (message : String)
  /-- The terminal for the program could not be had. -/
  | terminal (message : String)
deriving Repr, DecidableEq

namespace CommandError

def message : CommandError → String
  | notFound program => "exec: " ++ Text.quoted program ++ ": executable file not found in $PATH"
  | exitStatus code _ => "exit status " ++ Decimal.signedText code
  | terminated _ => "signal: killed"
  | canceled _ => "context canceled"
  | timeout t => "context deadline exceeded after " ++ t.text
  | spawn program message => "failed to spawn " ++ Text.quoted program ++ ": " ++ message
  | io message => "I/O error: " ++ message
  | terminal message => "pty error: " ++ message

def isNotFound : CommandError → Bool
  | notFound _ => true
  | _ => false

/-- Whether the caller stopped waiting. -/
def isCancellation : CommandError → Bool
  | canceled _ => true
  | timeout _ => true
  | _ => false

/-- The status of a program that ended by itself. -/
def exitCode? : CommandError → Option Int
  | exitStatus code _ => some code
  | _ => none

/-- What the program wrote, when it ran at all. -/
def output? : CommandError → Option CommandOutput
  | exitStatus _ output => some output
  | terminated output => some output
  | _ => none

end CommandError

end HostInventory
