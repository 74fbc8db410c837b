import HostInventory.Text.Blank
import HostInventory.Text.Cut

/-!
# Stanzas

A document of stanzas holds records of named fields. Blank lines separate stanzas. A line that
starts with a space or a tab continues the value of the field before it; any other line starts a
field, its name standing before the first colon. A line without a colon is no field and is passed
over; a field that is written twice in a stanza keeps the later value.

Reading is one pass over the lines that remembers the stanza read so far and the field that a
continuation belongs to. A blank line clears both, so what stands before it has no influence on
what comes after.
-/

namespace HostInventory

/-- The fields of one stanza with their values, in the order in which they were first written. -/
abbrev Stanza := List (List Char × List Char)

namespace Stanza

def get? (s : Stanza) (name : List Char) : Option (List Char) :=
  s.lookup name

/-- Sets a field, in its old position if it is there. -/
def set : Stanza → List Char → List Char → Stanza
  | [], name, value => [(name, value)]
  | (n, v) :: rest, name, value =>
    if n = name then (n, value) :: rest else (n, v) :: set rest name value

/-- Adds a line to the value of a field that is there. -/
def extend : Stanza → List Char → List Char → Stanza
  | [], _, _ => []
  | (n, v) :: rest, name, line =>
    if n = name then (n, v ++ '\n' :: line) :: rest else (n, v) :: extend rest name line

inductive Line where
  | blank
  | continuation (text : List Char)
  | field (name value : List Char)
  | other
deriving Repr, DecidableEq

def classify (line : List Char) : Line :=
  if Text.isBlankText line then .blank
  else
    match line with
    | ' ' :: _ => .continuation (Text.trim line)
    | '\t' :: _ => .continuation (Text.trim line)
    | _ =>
      match Text.cutAt? (· == ':') line with
      | some (name, value) => .field (Text.trim name) (Text.trim value)
      | none => .other

/-- A stanza that is complete, unless it has no field. -/
def finished (s : Stanza) : List Stanza :=
  if s.isEmpty then [] else [s]

/-- The stanzas of the lines, given the stanza read so far and its last field. -/
def ofLinesFrom (current : Stanza) (last : Option (List Char)) :
    List (List Char) → List Stanza
  | [] => finished current
  | line :: rest =>
    match classify line with
    | .blank => finished current ++ ofLinesFrom [] none rest
    | .continuation text =>
      match last with
      | some name => ofLinesFrom (current.extend name text) last rest
      | none => ofLinesFrom current none rest
    | .field name value => ofLinesFrom (current.set name value) (some name) rest
    | .other => ofLinesFrom current last rest

def ofText (text : List Char) : List Stanza :=
  ofLinesFrom [] none (Text.lines text)

end Stanza

end HostInventory
