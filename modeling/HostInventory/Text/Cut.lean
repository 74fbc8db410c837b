/-!
# Cutting text at marks

Cutting a text at the first character of a kind, taking a known beginning away, joining pieces with
a mark between them, and cutting a text into lines.

A line ends at a line feed; one carriage return before the line feed belongs to the line end. A
text that ends in a line feed has no empty line after it, and without a line feed at the end a
carriage return stays in the last line.
-/

namespace HostInventory.Text

/-- What stands before and after the first character that satisfies a test. -/
def cutAt? (p : Char → Bool) : List Char → Option (List Char × List Char)
  | [] => none
  | c :: rest =>
    if p c then some ([], rest)
    else (cutAt? p rest).map fun (before, after) => (c :: before, after)

/-- What follows a known beginning. -/
def afterPrefix? : List Char → List Char → Option (List Char)
  | [], s => some s
  | _ :: _, [] => none
  | m :: mark, c :: s => if m = c then afterPrefix? mark s else none

def hasPrefix (mark s : List Char) : Bool :=
  (afterPrefix? mark s).isSome

/-- Drops characters at the end that satisfy a test. -/
def dropEndWhile (p : Char → Bool) (s : List Char) : List Char :=
  (s.reverse.dropWhile p).reverse

def joinWith (mark : List Char) : List (List Char) → List Char
  | [] => []
  | [piece] => piece
  | piece :: rest => piece ++ mark ++ joinWith mark rest

/-- The pieces between the characters that satisfy a test, the first of them collected in reverse
so far. -/
def splitFrom (p : Char → Bool) : List Char → List Char → List (List Char)
  | [], piece => [piece.reverse]
  | c :: rest, piece =>
    if p c then piece.reverse :: splitFrom p rest [] else splitFrom p rest (c :: piece)

/-- The pieces between the characters that satisfy a test; there is always at least one. -/
def splitAt (p : Char → Bool) (s : List Char) : List (List Char) :=
  splitFrom p s []

/-! ## Lines -/

/-- A line that was ended by a line feed, without the carriage return of its line end. -/
def dropReturn (line : List Char) : List Char :=
  if line.getLast? = some '\r' then line.dropLast else line

/-- The lines of a text, the first of them collected in reverse so far. -/
def linesFrom : List Char → List Char → List (List Char)
  | [], [] => []
  | [], line => [line.reverse]
  | c :: rest, line =>
    if c = '\n' then dropReturn line.reverse :: linesFrom rest []
    else linesFrom rest (c :: line)

def lines (s : List Char) : List (List Char) :=
  linesFrom s []

end HostInventory.Text
