import HostInventory.Json.Parser
import HostInventory.Json.Printer
import HostInventory.Fields

/-!
# Reading values out of JSON

A reader for each shape of data: text, bounded natural numbers, lists, records and names out of a
fixed set. A reader answers `none` for every value of another shape.
-/

namespace HostInventory.Json

def toText? : Json → Option String
  | .string s => s
  | _ => none

def toNatBelow? (bound : Nat) : Json → Option Nat
  | .number (.whole n) => if 0 ≤ n ∧ n < bound then some n.toNat else none
  | _ => none

/-- All items of an array, each read by one reader. -/
def toListOf? {α : Type} (read : Json → Option α) : Json → Option (List α)
  | .array items => items.mapM read
  | _ => none

/-- The names of an object, when all of them are text. -/
def namedMembers? (members : List (Option String × Json)) : Option (List (String × Json)) :=
  members.mapM fun (name, value) => name.map (·, value)

/-- One value per field of a record, written as an object or as an array. -/
def fields? (names : List String) : Json → Option (List (Option Json))
  | .object members => do Fields.ofMembers? names (← namedMembers? members)
  | .array items =>
    let (values, rest) := Fields.ofItems names items
    if rest.isEmpty then some values else none
  | _ => none

/-- One out of a set of names, written as a string or as the only member of an object, its value
being null. -/
def toName? : Json → Option String
  | .string s => s
  | .object [(name, .null)] => name
  | _ => none

end HostInventory.Json
