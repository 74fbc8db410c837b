import HostInventory.Json.Codec

/-!
# Durations

A span of time in whole seconds and nanoseconds. As text the largest unit with a non-zero count is
used, and the fraction carries no trailing zeros.
-/

namespace HostInventory

/-- A span of time; the seconds fit in 64 bits. -/
structure Duration where
  secs : UInt64
  nanos : Fin 1000000000
deriving Repr, DecidableEq, Inhabited

namespace Duration

def ofSecs (secs : UInt64) : Duration :=
  ⟨secs, 0⟩

/-- Seconds and nanoseconds, whole seconds among the nanoseconds carried over; nothing when the
seconds do not fit. -/
def ofParts? (secs nanos : Nat) : Option Duration :=
  let total := secs + nanos / 1000000000
  if total < Nat.pow 2 64 then
    some ⟨UInt64.ofNat total, ⟨nanos % 1000000000, Nat.mod_lt _ (by decide)⟩⟩
  else none

def toNanos (d : Duration) : Nat :=
  d.secs.toNat * 1000000000 + d.nanos.val

def longest : Duration :=
  ⟨UInt64.ofNat (Nat.pow 2 64 - 1), ⟨999999999, by decide⟩⟩

/-- So many nanoseconds, or the longest duration where that is shorter. -/
def ofNanos (nanos : Nat) : Duration :=
  (ofParts? 0 nanos).getD longest

/-- A count with a fraction of so many decimal places, without trailing zeros. -/
def decimalText (whole fraction places : Nat) : String :=
  let digits := ((Decimal.padded places fraction).reverse.dropWhile (· == '0')).reverse
  if digits.isEmpty then Decimal.text whole
  else Decimal.text whole ++ "." ++ String.ofList digits

/-- The duration in its largest unit. -/
def text (d : Duration) : String :=
  let nanos := d.nanos.val
  if 0 < d.secs.toNat then decimalText d.secs.toNat nanos 9 ++ "s"
  else if 1000000 ≤ nanos then decimalText (nanos / 1000000) (nanos % 1000000) 6 ++ "ms"
  else if 1000 ≤ nanos then decimalText (nanos / 1000) (nanos % 1000) 3 ++ "µs"
  else Decimal.text nanos ++ "ns"

/-- The JSON form: an object of seconds and nanoseconds. -/
def toJson (d : Duration) : Json :=
  .record [("secs", .nat d.secs.toNat), ("nanos", .nat d.nanos.val)]

/-- Reads the JSON form. No other members are allowed, and both fields have to be there. -/
def ofJson? (j : Json) : Option Duration := do
  let known :=
    match j with
    | .object members => members.all fun (name, _) => name == some "secs" || name == some "nanos"
    | _ => true
  if !known then none
  match ← j.fields? ["secs", "nanos"] with
  | [some secs, some nanos] =>
    let secs ← secs.toNatBelow? (Nat.pow 2 64)
    let nanos ← nanos.toNatBelow? (Nat.pow 2 32)
    ofParts? secs nanos
  | _ => none

end Duration

end HostInventory
