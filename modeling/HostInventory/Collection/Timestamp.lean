import HostInventory.Text.Decimal

/-!
# Points in time

A point in time is a count of nanoseconds since the beginning of 1970, in universal time. Its text
has the date, the time of day, and as many places of the second as are needed in groups of three.
-/

namespace HostInventory

structure Timestamp where
  nanos : Nat
deriving Repr, DecidableEq, Inhabited

namespace Timestamp

/-- A day as year, month and day of the month, from the count of days since the beginning of
March of the year 0. -/
def civil (days : Nat) : Nat × Nat × Nat :=
  let era := days / 146097
  let ofEra := days % 146097
  let yearOfEra := (ofEra - ofEra / 1460 + ofEra / 36524 - ofEra / 146096) / 365
  let dayOfYear := ofEra - (365 * yearOfEra + yearOfEra / 4 - yearOfEra / 100)
  let shifted := (5 * dayOfYear + 2) / 153
  let day := dayOfYear - (153 * shifted + 2) / 5 + 1
  let month := if shifted < 10 then shifted + 3 else shifted - 9
  let year := yearOfEra + era * 400 + (if month ≤ 2 then 1 else 0)
  (year, month, day)

/-- The days from the beginning of March of the year 0 to the beginning of 1970. -/
def epochDays : Nat :=
  719468

/-- The places of the second, in groups of three. -/
def fractionText (nanos : Nat) : List Char :=
  if nanos = 0 then []
  else if nanos % 1000000 = 0 then '.' :: Decimal.padded 3 (nanos / 1000000)
  else if nanos % 1000 = 0 then '.' :: Decimal.padded 6 (nanos / 1000)
  else '.' :: Decimal.padded 9 nanos

def text (t : Timestamp) : String :=
  let secs := t.nanos / 1000000000
  let (year, month, day) := civil (secs / 86400 + epochDays)
  let ofDay := secs % 86400
  String.ofList (Decimal.padded 4 year ++ '-' :: Decimal.padded 2 month ++
    '-' :: Decimal.padded 2 day ++ 'T' :: Decimal.padded 2 (ofDay / 3600) ++
    ':' :: Decimal.padded 2 (ofDay / 60 % 60) ++ ':' :: Decimal.padded 2 (ofDay % 60) ++
    fractionText (t.nanos % 1000000000) ++ ['Z'])

end Timestamp

class MonadClock (m : Type → Type) where
  now : m Timestamp

end HostInventory
