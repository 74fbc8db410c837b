import HostInventory.Json.Basic
import HostInventory.Text.Decimal

/-!
# Reading JSON

A text holds one value with blanks around it. The reader takes characters from the front and
returns what is left; `none` means that the characters cannot start a value. Each value takes at
least one character, so the length of the text bounds the nesting.
-/

namespace HostInventory.Json

/-- Drops the four blank characters of JSON. -/
def skipBlank : List Char → List Char
  | [] => []
  | c :: rest =>
    if c = ' ' ∨ c = '\n' ∨ c = '\t' ∨ c = '\r' then skipBlank rest else c :: rest

/-- The value of a hexadecimal digit of either case. -/
def hexValue? (c : Char) : Option Nat :=
  let n := c.toNat
  if 0x30 ≤ n ∧ n ≤ 0x39 then some (n - 0x30)
  else if 0x61 ≤ n ∧ n ≤ 0x66 then some (n - 0x57)
  else if 0x41 ≤ n ∧ n ≤ 0x46 then some (n - 0x37)
  else none

def hexValue4? (a b c d : Char) : Option Nat := do
  let a ← hexValue? a
  let b ← hexValue? b
  let c ← hexValue? c
  let d ← hexValue? d
  return ((a * 16 + b) * 16 + c) * 16 + d

/-- The first half of a surrogate pair. -/
def isHighSurrogate (n : Nat) : Bool :=
  decide (0xD800 ≤ n) && decide (n < 0xDC00)

/-- The second half of a surrogate pair. -/
def isLowSurrogate (n : Nat) : Bool :=
  decide (0xDC00 ≤ n) && decide (n < 0xE000)

def pairChar (high low : Nat) : Char :=
  Char.ofNat (0x10000 + (high - 0xD800) * 0x400 + (low - 0xDC00))

/-- The character that a two-character escape stands for. -/
def simpleEscape? : Char → Option Char
  | '"' => some '"'
  | '\\' => some '\\'
  | '/' => some '/'
  | 'b' => some '\x08'
  | 'f' => some '\x0c'
  | 'n' => some '\n'
  | 'r' => some '\r'
  | 't' => some '\t'
  | _ => none

/-- The rest of a string: its characters, unless half of a surrogate pair is among them, and what
follows the closing quote. -/
abbrev StringRest :=
  Option (Option (List Char) × List Char)

def StringRest.push (c : Char) (r : StringRest) : StringRest :=
  r.map fun (text, rest) => (text.map (c :: ·), rest)

/-- Notes half of a surrogate pair. -/
def StringRest.spoil (r : StringRest) : StringRest :=
  r.map fun (_, rest) => (none, rest)

/-- Reads a string after its opening quote; `high` is the first half of a surrogate pair that has
just been read and waits for the second. -/
def readString (high : Option Nat) : List Char → StringRest
  | [] => none
  | '"' :: rest => some (if high.isSome then none else some [], rest)
  | '\\' :: 'u' :: a :: b :: c :: d :: rest =>
    match hexValue4? a b c d, high with
    | none, _ => none
    | some n, none =>
      if isHighSurrogate n then readString (some n) rest
      else if isLowSurrogate n then (readString none rest).spoil
      else (readString none rest).push (Char.ofNat n)
    | some n, some h =>
      if isLowSurrogate n then (readString none rest).push (pairChar h n)
      else if isHighSurrogate n then (readString (some n) rest).spoil
      else (readString none rest).spoil
  | '\\' :: c :: rest =>
    match simpleEscape? c with
    | none => none
    | some e => if high.isSome then (readString none rest).spoil else (readString none rest).push e
  | c :: rest =>
    if c = '\\' ∨ c.toNat < 0x20 then none
    else if high.isSome then (readString none rest).spoil
    else (readString none rest).push c

/-- The digits in front and what follows them. -/
def spanDigits : List Char → List Char × List Char
  | [] => ([], [])
  | c :: rest =>
    if Decimal.isDigit c then
      let (ds, rest') := spanDigits rest
      (c :: ds, rest')
    else ([], c :: rest)

/-- The whole part of a number: digits without a needless zero in front. -/
def readWhole (s : List Char) : Option (List Char × List Char) :=
  match spanDigits s with
  | ([], _) => none
  | ('0' :: _ :: _, _) => none
  | (ds, rest) => some (ds, rest)

/-- The digits of the fraction, if there is one. -/
def readFraction : List Char → Option (Option (List Char) × List Char)
  | '.' :: rest =>
    match spanDigits rest with
    | ([], _) => none
    | (ds, rest') => some (some ds, rest')
  | rest => some (none, rest)

def readExponent : List Char → Option (Option Int × List Char)
  | [] => some (none, [])
  | c :: rest =>
    if c = 'e' ∨ c = 'E' then
      let (negative, rest) :=
        match rest with
        | '-' :: rest => (true, rest)
        | '+' :: rest => (false, rest)
        | rest => (false, rest)
      match spanDigits rest with
      | ([], _) => none
      | (ds, rest') =>
        let n : Int := Decimal.value ds
        some (some (if negative then -n else n), rest')
    else some (none, c :: rest)

def readNumber (s : List Char) : Option (Number × List Char) := do
  let (negative, s) :=
    match s with
    | '-' :: rest => (true, rest)
    | rest => (false, rest)
  let (whole, s) ← readWhole s
  let (fraction, s) ← readFraction s
  let (exponent, s) ← readExponent s
  let n := Decimal.value whole
  match fraction, exponent with
  | none, none =>
    if negative then
      if n = 0 then return (.scaled true 0 0, s) else return (.whole (-n), s)
    else return (.whole n, s)
  | _, _ =>
    let part := fraction.getD []
    return (.scaled negative (Decimal.value (whole ++ part)) (exponent.getD 0 - part.length), s)

mutual

/-- Reads a value, nested at most as deep as the first argument says. -/
def readValue (fuel : Nat) (s : List Char) : Option (Json × List Char) :=
  match fuel with
  | 0 => none
  | fuel + 1 =>
    match s with
    | 'n' :: 'u' :: 'l' :: 'l' :: rest => some (.null, rest)
    | 't' :: 'r' :: 'u' :: 'e' :: rest => some (.bool true, rest)
    | 'f' :: 'a' :: 'l' :: 's' :: 'e' :: rest => some (.bool false, rest)
    | '"' :: rest =>
      (readString none rest).map fun (chars, rest) => (.string (chars.map String.ofList), rest)
    | '[' :: rest =>
      match skipBlank rest with
      | ']' :: rest => some (.array [], rest)
      | rest => (readItems fuel rest).map fun (items, rest) => (.array items, rest)
    | '\x7b' :: rest =>
      match skipBlank rest with
      | '\x7d' :: rest => some (.object [], rest)
      | rest => (readMembers fuel rest).map fun (members, rest) => (.object members, rest)
    | s => (readNumber s).map fun (n, rest) => (.number n, rest)

/-- Reads the items of an array from the first on, and its end. -/
def readItems (fuel : Nat) (s : List Char) : Option (List Json × List Char) :=
  match fuel with
  | 0 => none
  | fuel + 1 =>
    match readValue fuel (skipBlank s) with
    | none => none
    | some (item, rest) =>
      match skipBlank rest with
      | ',' :: rest => (readItems fuel rest).map fun (items, rest) => (item :: items, rest)
      | ']' :: rest => some ([item], rest)
      | _ => none

/-- Reads the members of an object from the first on, and its end. -/
def readMembers (fuel : Nat) (s : List Char) : Option (List (Option String × Json) × List Char) :=
  match fuel with
  | 0 => none
  | fuel + 1 =>
    match skipBlank s with
    | '"' :: rest =>
      match readString none rest with
      | none => none
      | some (name, rest) =>
        match skipBlank rest with
        | ':' :: rest =>
          match readValue fuel (skipBlank rest) with
          | none => none
          | some (value, rest) =>
            let member := (name.map String.ofList, value)
            match skipBlank rest with
            | ',' :: rest =>
              (readMembers fuel rest).map fun (members, rest) => (member :: members, rest)
            | '\x7d' :: rest => some ([member], rest)
            | _ => none
        | _ => none
    | _ => none

end

/-- The value of a text, if it holds exactly one. -/
def parse? (s : String) : Option Json :=
  let chars := s.toList
  match readValue (chars.length + 1) (skipBlank chars) with
  | none => none
  | some (j, rest) => if (skipBlank rest).isEmpty then some j else none

end HostInventory.Json
