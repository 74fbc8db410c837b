import HostInventory.Fields

/-!
# Shell programs

A program is a list of commands. Words are made of pieces, some of which stand for text that is
known only when the command runs; a piece in quotes is never taken apart.

Like the utilities that it starts, the shell is a program of the host and not part of the inventory.
-/

namespace HostInventory.Shell

/-- What is done where a variable has no value, or an empty one. -/
inductive Alternative where
  /-- Another text is used. -/
  | useInstead
  /-- Another text is used and stored. -/
  | assign
  /-- The other text is used exactly when there is a value. -/
  | whenSet
deriving Repr, DecidableEq

/-- How a file is opened for a stream. -/
inductive OpenMode where
  | reads
  | creates
  | appends
deriving Repr, DecidableEq

mutual

inductive Piece where
  | text (quoted : Bool) (chars : List Char)
  /-- The value of a variable or parameter. `orEmpty`: an empty value counts as none. -/
  | variable (quoted : Bool) (name : String) (orEmpty : Bool)
      (alternative : Option (Alternative × List Piece))
  /-- The length of a value. -/
  | length (quoted : Bool) (name : String)
  /-- What a program writes. -/
  | output (quoted : Bool) (program : List Node)
  /-- The value of an arithmetic expression. -/
  | sum (quoted : Bool) (expression : List Piece)

/-- Where a stream of a command goes to or comes from. -/
inductive Redirection where
  | file (stream : Nat) (mode : OpenMode) (path : List Piece)
  /-- The same as another stream; a dash closes it. -/
  | copy (stream : Nat) (other : List Piece)

inductive Node where
  /-- A line number, variables to set, and words of which the first names what to run. -/
  | simple (line : Nat) (bindings : List (String × List Piece)) (words : List (List Piece))
      (redirections : List Redirection)
  | pipeline (negated : Bool) (stages : List Node)
  | both (first second : Node)
  | either (first second : Node)
  | background (body : Node)
  /-- Several commands as one, in a shell of their own if `apart`. -/
  | block (apart : Bool) (body : List Node) (redirections : List Redirection)
  | choice (branches : List (List Node × List Node)) (otherwise : List Node)
      (redirections : List Redirection)
  /-- Runs a body as long as a condition answers `wanted`. -/
  | loop (wanted : Bool) (condition body : List Node) (redirections : List Redirection)
  /-- Runs a body once for each word; without words, for each parameter. -/
  | each (name : String) (words : Option (List (List Piece))) (body : List Node)
      (redirections : List Redirection)

end

abbrev Word := List Piece

/-- What is wrong with the text of a program, and where. -/
structure SyntaxError where
  line : Nat
  text : String
deriving Repr, DecidableEq

end HostInventory.Shell
