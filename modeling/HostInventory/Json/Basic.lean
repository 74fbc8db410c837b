/-!
# JSON values

The values that a JSON text stands for. Numbers keep what a reader may ask for: whether they are
whole, and if not, whether they still are a finite number in double precision. A string can be
well formed without being text, when an escape leaves half of a surrogate pair; such strings are
kept as `none`, so that a reader who skips them need not refuse the document.
-/

namespace HostInventory

/-- A number as written: a whole number without fraction and exponent, or digits times a power of
ten. Minus zero is of the second kind. -/
inductive Json.Number where
  | whole (n : Int)
  | scaled (negative : Bool) (digits : Nat) (exponent : Int)
deriving Repr, DecidableEq

/-- A JSON value. Members keep their order and may repeat a name. -/
inductive Json where
  | null
  | bool (b : Bool)
  | number (n : Json.Number)
  | string (text : Option String)
  | array (items : List Json)
  | object (members : List (Option String × Json))
deriving Repr

namespace Json

abbrev text (s : String) : Json :=
  .string (some s)

abbrev nat (n : Nat) : Json :=
  .number (.whole n)

/-- An object whose names are text. -/
def record (members : List (String × Json)) : Json :=
  .object (members.map fun (name, value) => (some name, value))

mutual

/-- How many arrays and objects stand inside each other. -/
def depth : Json → Nat
  | .array items => 1 + depthOfItems items
  | .object members => 1 + depthOfMembers members
  | _ => 0

def depthOfItems : List Json → Nat
  | [] => 0
  | item :: rest => max item.depth (depthOfItems rest)

def depthOfMembers : List (Option String × Json) → Nat
  | [] => 0
  | (_, value) :: rest => max value.depth (depthOfMembers rest)

end

/-- Whether a decimal number rounds to a finite number in double precision. -/
def isFiniteDouble (digits : Nat) (exponent : Int) : Bool :=
  if digits = 0 then true
  else
    let size : Int := (Nat.toDigits 10 digits).length + exponent
    if size > 310 then false
    else if size < 300 then true
    else
      let limit := Nat.pow 2 1024 - Nat.pow 2 970
      match exponent with
      | .ofNat e => decide (digits * Nat.pow 10 e < limit)
      | .negSucc e => decide (digits < limit * Nat.pow 10 (e + 1))

/-- Whether a number is finite in double precision. -/
def Number.isFinite : Number → Bool
  | .whole n => isFiniteDouble n.natAbs 0
  | .scaled _ digits exponent => isFiniteDouble digits exponent

mutual

/-- Whether every string in a value is text and every number finite. -/
def isTextual : Json → Bool
  | .null => true
  | .bool _ => true
  | .number n => n.isFinite
  | .string t => t.isSome
  | .array items => itemsTextual items
  | .object members => membersTextual members

def itemsTextual : List Json → Bool
  | [] => true
  | item :: rest => item.isTextual && itemsTextual rest

/-- Whether every member is textual, its name included. -/
def membersTextual : List (Option String × Json) → Bool
  | [] => true
  | (name, value) :: rest => name.isSome && value.isTextual && membersTextual rest

end

end Json

end HostInventory
