import HostInventory.Utility.Basic

/-!
# Printing words

`echo` writes its words with spaces between them, `printf` writes words as a format says and goes
through the format again while words are left. Both know escapes that begin with a backslash.
-/

namespace HostInventory.Utility

def octetsOf (chars : List Char) : Octets :=
  Utf8.encode (String.ofList chars)

def isOctal (c : Char) : Bool :=
  decide ('0' ≤ c) && decide (c ≤ '7')

/-- The octet that an escape of one letter stands for. -/
def letterEscape? : Char → Option UInt8
  | 'a' => some 7
  | 'b' => some 8
  | 'e' => some 27
  | 'f' => some 12
  | 'n' => some 10
  | 'r' => some 13
  | 't' => some 9
  | 'v' => some 11
  | '\\' => some 92
  | _ => none

/-- The octet that up to three octal digits stand for, and how many characters they take. In words
a zero stands in front of them. -/
def octalEscape? (inWords : Bool) (chars : List Char) : Option (UInt8 × Nat) :=
  let skipped := if inWords && chars.head? == some '0' then 1 else 0
  let digits := ((chars.drop skipped).take 3).takeWhile isOctal
  if skipped + digits.length = 0 then none
  else some (UInt8.ofNat (digits.foldl (fun n d => n * 8 + (d.toNat - '0'.toNat)) 0),
    skipped + digits.length)

/-- Characters with their escapes resolved, down from a bound on their number, and whether `\c`
asked to stop everything. -/
def unescape (inWords : Bool) : Nat → List Char → Octets × Bool
  | 0, _ => ([], false)
  | _, [] => ([], false)
  | n + 1, '\\' :: rest =>
    match octalEscape? inWords rest, rest with
    | some (octet, count), rest =>
      let (octets, stopped) := unescape inWords n (rest.drop count)
      (octet :: octets, stopped)
    | none, [] => ([92], false)
    | none, c :: rest =>
      if inWords && c == 'c' then ([], true)
      else
        let (octets, stopped) := unescape inWords n rest
        match letterEscape? c with
        | some octet => (octet :: octets, stopped)
        | none => (92 :: octetsOf [c] ++ octets, stopped)
  | n + 1, c :: rest =>
    let (octets, stopped) := unescape inWords n rest
    (octetsOf [c] ++ octets, stopped)

def unescapeWord (word : String) : Octets × Bool :=
  unescape true (word.length + 1) word.toList

def spaced (words : List String) : String :=
  " ".intercalate words

/-- The line of words in which escapes are resolved. -/
def escapedLine (newline : Bool) (words : List String) : Octets :=
  let (octets, stopped) := unescapeWord (spaced words)
  if newline && !stopped then octets ++ [10] else octets

/-- The `echo` of shells: only `-n` is an option, and escapes are resolved. -/
def shellEcho (c : Call) : Work :=
  match c.args with
  | "-n" :: words => c.writes (escapedLine false words) 0
  | words => c.writes (escapedLine true words) 0

/-- Whether a word is options of `echo`. -/
def isEchoOption (word : String) : Bool :=
  match word.toList with
  | '-' :: c :: cs => (c :: cs).all fun c => c == 'n' || c == 'e' || c == 'E'
  | _ => false

/-- The `echo` that is a program: escapes are resolved only on request. -/
def plainEcho (c : Call) : Work :=
  let letters := (c.args.takeWhile isEchoOption).flatMap String.toList
  let words := c.args.dropWhile isEchoOption
  let newline := !letters.contains 'n'
  match (letters.filter fun c => c == 'e' || c == 'E').getLast? with
  | some 'e' => c.writes (escapedLine newline words) 0
  | _ => c.writes (Utf8.encode (spaced words) ++ (if newline then [10] else [])) 0

/-! ## Formats -/

/-- How a word is written: flags, the least width, a precision, and the kind. -/
structure Conversion where
  flags : List Char
  width : Nat
  precision : Option Nat
  kind : Char
deriving Repr

/-- Reads a conversion behind its percent sign. -/
def Conversion.read? (chars : List Char) : Option (Conversion × List Char) :=
  let isFlag (c : Char) := ['-', '+', ' ', '0', '#'].contains c
  let flags := chars.takeWhile isFlag
  let chars := chars.dropWhile isFlag
  let width := Decimal.value (chars.takeWhile Decimal.isDigit)
  let chars := chars.dropWhile Decimal.isDigit
  let (precision, chars) :=
    match chars with
    | '.' :: rest =>
      (some (Decimal.value (rest.takeWhile Decimal.isDigit)), rest.dropWhile Decimal.isDigit)
    | chars => (none, chars)
  match chars with
  | [] => none
  | kind :: rest => some (⟨flags, width, precision, kind⟩, rest)

def Conversion.fill (v : Conversion) (octets : Octets) : Octets :=
  let missing := List.replicate (v.width - octets.length) (32 : UInt8)
  if v.flags.contains '-' then octets ++ missing else missing ++ octets

/-- The number that a word stands for; zero for one that stands for none. -/
def numberOf (word : String) : Int :=
  word.trimAscii.toString.toInt?.getD 0

/-- Digits of a number in a base of at most sixteen. -/
def digitsIn (base n : Nat) : List Char :=
  if base ≤ 1 then [] else Nat.toDigits base n

/-- Writes a number: sign, least count of digits, width. -/
def Conversion.number (v : Conversion) (base : Nat) (n : Int) : Octets :=
  let sign :=
    if n < 0 then ['-']
    else if v.flags.contains '+' then ['+']
    else if v.flags.contains ' ' then [' ']
    else []
  let digits := digitsIn base n.natAbs
  let digits := if v.kind == 'X' then digits.map Char.toUpper else digits
  let least :=
    match v.precision with
    | some precision => precision
    | none =>
      if v.flags.contains '0' && !v.flags.contains '-' then v.width - sign.length else 0
  v.fill (octetsOf (sign ++ List.replicate (least - digits.length) '0' ++ digits))

/-- Writes one word; the flag says whether `\c` asked to stop everything. -/
def Conversion.write? (v : Conversion) (word : Option String) : Option (Octets × Bool) :=
  let text := word.getD ""
  let cut (octets : Octets) := (v.precision.map octets.take).getD octets
  match v.kind with
  | 's' => some (v.fill (cut (Utf8.encode text)), false)
  | 'b' =>
    let (octets, stopped) := unescapeWord text
    some (v.fill (cut octets), stopped)
  | 'c' => some (v.fill ((Utf8.encode text).take 1), false)
  | 'd' => some (v.number 10 (numberOf text), false)
  | 'i' => some (v.number 10 (numberOf text), false)
  | 'u' => some (v.number 10 (numberOf text), false)
  | 'o' => some (v.number 8 (numberOf text), false)
  | 'x' => some (v.number 16 (numberOf text), false)
  | 'X' => some (v.number 16 (numberOf text), false)
  | _ => none

/-- What one way through a format writes, which words it leaves, and whether everything stops. -/
def formatOnce : Nat → List Char → List String → Octets × List String × Bool
  | 0, _, words => ([], words, false)
  | _, [], words => ([], words, false)
  | n + 1, '%' :: '%' :: rest, words =>
    let (octets, words, stopped) := formatOnce n rest words
    (37 :: octets, words, stopped)
  | n + 1, '%' :: rest, words =>
    match Conversion.read? rest with
    | none => ([37], words, true)
    | some (v, rest) =>
      match v.write? words.head? with
      | none => ([], words, true)
      | some (octets, true) => (octets, words.tail, true)
      | some (octets, false) =>
        let (more, words, stopped) := formatOnce n rest words.tail
        (octets ++ more, words, stopped)
  | n + 1, chars, words =>
    let plain := chars.takeWhile (· != '%')
    let (octets, _) := unescape false (plain.length + 1) plain
    let (more, words, stopped) := formatOnce n (chars.dropWhile (· != '%')) words
    (octets ++ more, words, stopped)

/-- Goes through a format until no words are left or it takes none. -/
def formatAll (format : List Char) : Nat → List String → Octets
  | 0, _ => []
  | n + 1, words =>
    let (octets, left, stopped) := formatOnce (format.length + 1) format words
    if stopped || left.isEmpty || left.length = words.length then octets
    else octets ++ formatAll format n left

def printf (c : Call) : Work :=
  match c.args with
  | [] => c.complains "usage: printf format [arg ...]" 2
  | format :: words => c.writes (formatAll format.toList (words.length + 1) words) 0

end HostInventory.Utility
