import HostInventory.Fields
import HostInventory.Toml.Parser

/-!
# Reading values out of TOML

A reader for each shape of data. A record is a table, or an array of the values of its fields; a
name out of a fixed set is a string, or the only name in a table, its value being empty.
-/

namespace HostInventory.Toml

def toText? : Toml → Option String
  | .string s => some s
  | _ => none

def toNatBelow? (bound : Nat) : Toml → Option Nat
  | .integer n => if 0 ≤ n ∧ n < bound then some n.toNat else none
  | _ => none

def toBool? : Toml → Option Bool
  | .boolean b => some b
  | _ => none

/-- Whether a value is an empty array or table. -/
def isEmpty : Toml → Bool
  | .array [] => true
  | .table [] => true
  | _ => false

/-- One out of a set of names. -/
def toName? : Toml → Option String
  | .string s => some s
  | .table [(name, value)] => if value.isEmpty then some name else none
  | _ => none

/-- One value per field of a record. Members with other names are skipped, which needs their
numbers to be within bounds; items beyond the last field are not looked at. -/
def fields? (names : List String) : Toml → Option (List (Option Toml))
  | .table members =>
    if members.all fun (name, value) => names.contains name || value.isBounded then
      Fields.ofMembers? names members
    else none
  | .array items => some (Fields.ofItems names items).1
  | _ => none

end HostInventory.Toml
