import HostInventory.Toml.Basic
import HostInventory.Json.Parser

/-!
# Quoted text

Text stands in double quotes with escapes or in single quotes without, on one line or, in three
quotes, on several. Of a text on several lines a line end right after the opening quotes is no
part, and up to two quotes may stand before the closing ones. In double quotes a backslash before
a line end takes all blanks and line ends after it away.
-/

namespace HostInventory.Toml

/-- Text read so far and what follows it. -/
abbrev QuoteRest :=
  Option (List Char × List Char)

def QuoteRest.push (c : Char) (r : QuoteRest) : QuoteRest :=
  r.map fun (text, rest) => (c :: text, rest)

/-- Whether a character may stand in a text as it is; line ends are treated by themselves. -/
def isPlainChar (c : Char) : Bool :=
  c == '\t' || (decide (0x20 ≤ c.toNat) && c.toNat != 0x7F)

/-- The character with a code point, if there is one. -/
def charOf? (n : Nat) : Option Char :=
  if h : n.isValidChar then some (Char.ofNatAux n h) else none

def hexChar? (digits : List Char) : Option Char := do
  let values ← digits.mapM Json.hexValue?
  charOf? (values.foldl (fun n v => n * 16 + v) 0)

/-- The character that a two-character escape stands for. -/
def shortEscape? : Char → Option Char
  | 'b' => some '\x08'
  | 't' => some '\t'
  | 'n' => some '\n'
  | 'f' => some '\x0c'
  | 'r' => some '\r'
  | 'e' => some '\x1b'
  | '"' => some '"'
  | '\\' => some '\\'
  | _ => none

/-- How many hexadecimal digits follow the letter of an escape. -/
def hexCount? : Char → Option Nat
  | 'x' => some 2
  | 'u' => some 4
  | 'U' => some 8
  | _ => none

/-- The character of an escape, its letter and the digits after it given, and how many of them
belong to it. -/
def escape? (letter : Char) (rest : List Char) : Option (Char × Nat) :=
  match hexCount? letter with
  | some count =>
    let digits := rest.take count
    if digits.length = count then (hexChar? digits).map fun c => (c, count) else none
  | none => (shortEscape? letter).map fun c => (c, 0)

/-- Reads text in double quotes after the opening quote; `skip` more characters belong to an escape
that has been read. -/
def readBasic (skip : Nat) : List Char → QuoteRest
  | [] => none
  | c :: rest =>
    match skip with
    | skip + 1 => readBasic skip rest
    | 0 =>
      if c = '"' then some ([], rest)
      else if c = '\\' then
        match rest with
        | [] => none
        | letter :: rest =>
          match escape? letter rest with
          | some (e, count) => QuoteRest.push e (readBasic count rest)
          | none => none
      else if isPlainChar c then QuoteRest.push c (readBasic 0 rest)
      else none

/-- Reads text in single quotes after the opening quote. -/
def readLiteral : List Char → QuoteRest
  | [] => none
  | c :: rest =>
    if c = '\'' then some ([], rest)
    else if isPlainChar c then QuoteRest.push c (readLiteral rest)
    else none

/-- The end of a text on several lines, at its first quote: how many quotes belong to the text, and
what follows the closing ones. Fewer than three quotes end nothing. -/
def closing? (quote : Char) (s : List Char) : Option (List Char × List Char) :=
  let count := (s.takeWhile (· == quote)).length
  if count < 3 then none
  else
    let inner := min (count - 3) 2
    some (List.replicate inner quote, s.drop (inner + 3))

/-- Whether a backslash here takes the blanks after it away: blanks, then a line end. -/
def startsFold (s : List Char) : Bool :=
  match s.dropWhile fun c => c == ' ' || c == '\t' with
  | '\n' :: _ => true
  | '\r' :: '\n' :: _ => true
  | _ => false

/-- How many characters at the beginning are blanks and line ends. -/
def foldLength : List Char → Nat
  | ' ' :: rest => foldLength rest + 1
  | '\t' :: rest => foldLength rest + 1
  | '\n' :: rest => foldLength rest + 1
  | '\r' :: '\n' :: rest => foldLength rest + 2
  | _ => 0

/-- Reads text in three double quotes after the opening ones. -/
def readBasicLines (skip : Nat) : List Char → QuoteRest
  | [] => none
  | c :: rest =>
    match skip with
    | skip + 1 => readBasicLines skip rest
    | 0 =>
      if c = '"' then
        match closing? '"' (c :: rest) with
        | some found => some found
        | none => QuoteRest.push c (readBasicLines 0 rest)
      else if c = '\\' then
        if startsFold rest then readBasicLines (foldLength rest) rest
        else
          match rest with
          | [] => none
          | letter :: rest =>
            match escape? letter rest with
            | some (e, count) => QuoteRest.push e (readBasicLines count rest)
            | none => none
      else if isPlainChar c || c == '\n' || (c == '\r' && rest.head? == some '\n') then
        QuoteRest.push c (readBasicLines 0 rest)
      else none

/-- Reads text in three single quotes after the opening ones. -/
def readLiteralLines : List Char → QuoteRest
  | [] => none
  | c :: rest =>
    if c = '\'' then
      match closing? '\'' (c :: rest) with
      | some found => some found
      | none => QuoteRest.push c (readLiteralLines rest)
    else if isPlainChar c || c == '\n' || (c == '\r' && rest.head? == some '\n') then
      QuoteRest.push c (readLiteralLines rest)
    else none

/-- Drops a line end right after opening quotes. -/
def dropFirstLineEnd : List Char → List Char
  | '\n' :: rest => rest
  | '\r' :: '\n' :: rest => rest
  | rest => rest

/-- Reads a text on one line, as a name may be written. -/
def readShortQuote? : List Char → QuoteRest
  | '"' :: rest => readBasic 0 rest
  | '\'' :: rest => readLiteral rest
  | _ => none

def readQuote? : List Char → QuoteRest
  | '"' :: '"' :: '"' :: rest => readBasicLines 0 (dropFirstLineEnd rest)
  | '\'' :: '\'' :: '\'' :: rest => readLiteralLines (dropFirstLineEnd rest)
  | s => readShortQuote? s

end HostInventory.Toml
