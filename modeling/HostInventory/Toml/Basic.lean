import HostInventory.Json.Basic

/-!
# TOML values

The values that a TOML document is made of. Whole numbers have no bounds here and decimal numbers
keep their digits: whether a number is too large is for the reader to say who asks for it. Dates
and times are kept as they are written.
-/

namespace HostInventory

inductive Toml.Real where
  /-- Digits times a power of ten. -/
  | decimal (negative : Bool) (digits : Nat) (exponent : Int)
  | infinite (negative : Bool)
  | nan
deriving Repr, DecidableEq

/-- A TOML value. The names in a table are pairwise different. -/
inductive Toml where
  | string (s : String)
  | integer (n : Int)
  | real (x : Toml.Real)
  | boolean (b : Bool)
  | time (text : String)
  | array (items : List Toml)
  | table (members : List (String × Toml))
deriving Repr

namespace Toml

/-- The greatest whole number that a reader takes who does not look at it. -/
def maxInteger : Int :=
  Int.ofNat (Nat.pow 2 128 - 1)

/-- The least whole number that a reader takes who does not look at it. -/
def minInteger : Int :=
  Int.negOfNat (Nat.pow 2 127)

/-- Whether a number is finite in double precision, or meant to be infinite. -/
def Real.isBounded : Real → Bool
  | .decimal _ digits exponent => Json.isFiniteDouble digits exponent
  | .infinite _ => true
  | .nan => true

mutual

/-- Whether every number in a value is within bounds. -/
def isBounded : Toml → Bool
  | .string _ => true
  | .integer n => decide (minInteger ≤ n) && decide (n ≤ maxInteger)
  | .real x => x.isBounded
  | .boolean _ => true
  | .time _ => true
  | .array items => itemsBounded items
  | .table members => membersBounded members

def itemsBounded : List Toml → Bool
  | [] => true
  | item :: rest => item.isBounded && itemsBounded rest

def membersBounded : List (String × Toml) → Bool
  | [] => true
  | (_, value) :: rest => value.isBounded && membersBounded rest

end

end Toml

end HostInventory
