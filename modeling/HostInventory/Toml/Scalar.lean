import HostInventory.Text.Cut
import HostInventory.Text.Decimal
import HostInventory.Toml.Basic

/-!
# Numbers, dates and words

A value without quotes and brackets is one token: `true`, `false`, a number, or a date and time.
Underscores may separate digits. A number has no needless zero in front, and only a decimal number
has a sign. Seconds may be left out of a time.
-/

namespace HostInventory.Toml

/-- The digits of a token in which underscores stand between digits only. -/
def spacedDigits? (isDigit : Char → Bool) (token : List Char) : Option (List Char) :=
  let pieces := Text.splitAt (· == '_') token
  if pieces.all fun piece => !piece.isEmpty && piece.all isDigit then some pieces.flatten else none

/-- The value of a digit in a base of at most sixteen, if it is one. -/
def digitIn? (base : Nat) (c : Char) : Option Nat :=
  let n := c.toNat
  let digit :=
    if 0x30 ≤ n ∧ n ≤ 0x39 then n - 0x30
    else if 0x61 ≤ n ∧ n ≤ 0x66 then n - 0x57
    else if 0x41 ≤ n ∧ n ≤ 0x46 then n - 0x37
    else base
  if digit < base then some digit else none

/-- A number in a base with a prefix. -/
def basedInteger? (base : Nat) (token : List Char) : Option Nat := do
  let digits ← spacedDigits? (fun c => (digitIn? base c).isSome) token
  return digits.foldl (fun n c => n * base + (digitIn? base c).getD 0) 0

/-- Decimal digits without a needless zero in front. -/
def wholeDigits? (token : List Char) : Option (List Char) := do
  let digits ← spacedDigits? Decimal.isDigit token
  match digits with
  | '0' :: _ :: _ => none
  | digits => some digits

/-- An exponent, zeros in front allowed. -/
def exponent? : List Char → Option Int
  | '-' :: token => (spacedDigits? Decimal.isDigit token).map fun ds => -(Decimal.value ds : Int)
  | '+' :: token => (spacedDigits? Decimal.isDigit token).map fun ds => (Decimal.value ds : Int)
  | token => (spacedDigits? Decimal.isDigit token).map fun ds => (Decimal.value ds : Int)

/-- A decimal number without its sign. -/
def decimal? (negative : Bool) (token : List Char) : Option Toml := do
  let (mantissa, exponent) ←
    match Text.cutAt? (fun c => c == 'e' || c == 'E') token with
    | some (mantissa, exponent) => (exponent? exponent).map fun e => (mantissa, some e)
    | none => some (token, none)
  match Text.cutAt? (· == '.') mantissa, exponent with
  | none, none =>
    let n : Int := Decimal.value (← wholeDigits? mantissa)
    return .integer (if negative then -n else n)
  | none, some e =>
    return .real (.decimal negative (Decimal.value (← wholeDigits? mantissa)) e)
  | some (whole, fraction), e =>
    let whole ← wholeDigits? whole
    let fraction ← spacedDigits? Decimal.isDigit fraction
    return .real (.decimal negative (Decimal.value (whole ++ fraction))
      (e.getD 0 - fraction.length))

def unsigned? (negative : Bool) (token : List Char) : Option Toml :=
  if token = "inf".toList then some (.real (.infinite negative))
  else if token = "nan".toList then some (.real .nan)
  else decimal? negative token

/-- A number of exactly so many digits, and what follows. -/
def fixedDigits? : Nat → List Char → Option (Nat × List Char)
  | n, s =>
    let digits := s.take n
    if digits.length = n ∧ digits.all Decimal.isDigit then some (Decimal.value digits, s.drop n)
    else none

def isLeapYear (year : Nat) : Bool :=
  year % 4 == 0 && (year % 100 != 0 || year % 400 == 0)

def monthDays (year month : Nat) : Nat :=
  if month = 2 then (if isLeapYear year then 29 else 28)
  else if month = 4 ∨ month = 6 ∨ month = 9 ∨ month = 11 then 30
  else 31

/-- What follows a date. -/
def afterDate? (s : List Char) : Option (List Char) := do
  let (year, s) ← fixedDigits? 4 s
  let s ← Text.afterPrefix? ['-'] s
  let (month, s) ← fixedDigits? 2 s
  let s ← Text.afterPrefix? ['-'] s
  let (day, s) ← fixedDigits? 2 s
  if 1 ≤ month ∧ month ≤ 12 ∧ 1 ≤ day ∧ day ≤ monthDays year month then some s else none

/-- What follows the fraction of a second, if there is one. -/
def afterFraction? : List Char → Option (List Char)
  | '.' :: rest =>
    match rest with
    | [] => none
    | c :: _ => if Decimal.isDigit c then some (rest.dropWhile Decimal.isDigit) else none
  | rest => some rest

/-- What follows a time of day. -/
def afterTime? (s : List Char) : Option (List Char) := do
  let (hour, s) ← fixedDigits? 2 s
  let s ← Text.afterPrefix? [':'] s
  let (minute, s) ← fixedDigits? 2 s
  if 23 < hour ∨ 59 < minute then none
  match s with
  | ':' :: s => do
    let (second, s) ← fixedDigits? 2 s
    if 60 < second then none else afterFraction? s
  | s => some s

/-- Whether a text is an offset from universal time, or nothing. -/
def isOffset : List Char → Bool
  | [] => true
  | ['Z'] => true
  | ['z'] => true
  | sign :: s =>
    (sign == '+' || sign == '-') &&
      ((do
        let (hour, s) ← fixedDigits? 2 s
        let s ← Text.afterPrefix? [':'] s
        let (minute, s) ← fixedDigits? 2 s
        return decide (hour ≤ 23) && decide (minute ≤ 59) && s.isEmpty).getD false)

/-- Whether a character stands between a date and a time. -/
def isDateMark (c : Char) : Bool :=
  c == 'T' || c == 't' || c == ' '

/-- Whether a token is a date, a time, or both. -/
def isTime (token : List Char) : Bool :=
  match afterDate? token with
  | some [] => true
  | some (mark :: rest) => isDateMark mark && ((afterTime? rest).map isOffset).getD false
  | none => afterTime? token == some []

def scalar? (token : List Char) : Option Toml :=
  if token = "true".toList then some (.boolean true)
  else if token = "false".toList then some (.boolean false)
  else if isTime token then some (.time (String.ofList token))
  else
    match token with
    | '0' :: 'x' :: rest => (basedInteger? 16 rest).map fun n => .integer n
    | '0' :: 'o' :: rest => (basedInteger? 8 rest).map fun n => .integer n
    | '0' :: 'b' :: rest => (basedInteger? 2 rest).map fun n => .integer n
    | '-' :: rest => unsigned? true rest
    | '+' :: rest => unsigned? false rest
    | token => unsigned? false token

end HostInventory.Toml
