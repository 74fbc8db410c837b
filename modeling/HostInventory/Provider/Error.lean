import HostInventory.Command.Error

/-!
# Why a query for packages failed
-/

namespace HostInventory

inductive QueryError where
  /-- A command of the query did not succeed; with it what the program wrote, decoded. -/
  | command (program : String) (args : List String) (cause : CommandError) (stdout stderr : String)
  /-- The output was not what the query expects. -/
  | parse (message : String)
deriving Repr, DecidableEq

namespace QueryError

/-- The failure of a command, with what it wrote before it failed. -/
def ofCommand (c : Command) (cause : CommandError) : QueryError :=
  match cause.output? with
  | some output =>
    .command c.program c.args cause (Utf8.lossy output.stdout) (Utf8.lossy output.stderr)
  | none => .command c.program c.args cause "" ""

def message : QueryError → String
  | command program args cause stdout stderr =>
    "error running " ++ program ++ " with args " ++ Text.quotedList args ++ ": " ++ cause.message ++
      ", stdout: " ++ Text.quoted stdout ++ ", stderr: " ++ Text.quoted stderr
  | parse message => "parse error: " ++ message

/-- The cause, when a command failed. -/
def cause? : QueryError → Option CommandError
  | command _ _ cause _ _ => some cause
  | parse _ => none

def isNotFound (e : QueryError) : Bool :=
  e.cause?.any CommandError.isNotFound

end QueryError

end HostInventory
