import HostInventory.Json.Basic
import HostInventory.Text.Decimal

/-!
# Writing JSON

Two forms: compact without any blank, and indented by two spaces a level, where empty arrays and
objects stay on one line. In strings only the quote, the backslash and control characters below
U+0020 are escaped.
-/

namespace HostInventory.Json

def hexDigit (n : Nat) : Char :=
  if n < 10 then Char.ofNat (0x30 + n) else Char.ofNat (0x57 + n)

def escapeChar (c : Char) : List Char :=
  if c = '"' then ['\\', '"']
  else if c = '\\' then ['\\', '\\']
  else if c = '\x08' then ['\\', 'b']
  else if c = '\x0c' then ['\\', 'f']
  else if c = '\n' then ['\\', 'n']
  else if c = '\r' then ['\\', 'r']
  else if c = '\t' then ['\\', 't']
  else if c.toNat < 0x20 then
    ['\\', 'u', '0', '0', hexDigit (c.toNat / 16), hexDigit (c.toNat % 16)]
  else [c]

def stringChars (s : String) : List Char :=
  '"' :: s.toList.flatMap escapeChar ++ ['"']

def wholeChars : Int → List Char
  | .ofNat n => Decimal.digits n
  | .negSucc n => '-' :: Decimal.digits (n + 1)

def Number.chars : Number → List Char
  | .whole n => wholeChars n
  | .scaled negative digits exponent =>
    (if negative then ['-'] else []) ++ Decimal.digits digits ++ 'e' :: wholeChars exponent

/-- A string that may be no text; what is no text is written as the replacement character. -/
def looseChars (s : Option String) : List Char :=
  stringChars (s.getD "\uFFFD")

mutual

def compactChars : Json → List Char
  | .null => ['n', 'u', 'l', 'l']
  | .bool true => ['t', 'r', 'u', 'e']
  | .bool false => ['f', 'a', 'l', 's', 'e']
  | .number n => n.chars
  | .string s => looseChars s
  | .array [] => ['[', ']']
  | .array (item :: rest) => '[' :: (compactChars item ++ compactItems rest)
  | .object [] => ['\x7b', '\x7d']
  | .object ((name, value) :: rest) =>
    '\x7b' :: (looseChars name ++ ':' :: (compactChars value ++ compactMembers rest))

/-- The items after the first, and the end of the array. -/
def compactItems : List Json → List Char
  | [] => [']']
  | item :: rest => ',' :: (compactChars item ++ compactItems rest)

/-- The members after the first, and the end of the object. -/
def compactMembers : List (Option String × Json) → List Char
  | [] => ['\x7d']
  | (name, value) :: rest =>
    ',' :: (looseChars name ++ ':' :: (compactChars value ++ compactMembers rest))

end

def compact (j : Json) : String :=
  String.ofList (compactChars j)

/-- A new line, indented to a level. -/
def newline (level : Nat) : List Char :=
  '\n' :: List.replicate (2 * level) ' '

mutual

/-- The indented form, starting at a level. -/
def prettyChars (level : Nat) : Json → List Char
  | .array [] => ['[', ']']
  | .array (item :: rest) =>
    '[' :: (newline (level + 1) ++ prettyChars (level + 1) item ++ prettyItems level rest)
  | .object [] => ['\x7b', '\x7d']
  | .object ((name, value) :: rest) =>
    '\x7b' :: (newline (level + 1) ++ looseChars name ++ ':' :: ' ' ::
      (prettyChars (level + 1) value ++ prettyMembers level rest))
  | .null => ['n', 'u', 'l', 'l']
  | .bool true => ['t', 'r', 'u', 'e']
  | .bool false => ['f', 'a', 'l', 's', 'e']
  | .number n => n.chars
  | .string s => looseChars s

/-- The items after the first on lines of their own, and the end of the array. -/
def prettyItems (level : Nat) : List Json → List Char
  | [] => newline level ++ [']']
  | item :: rest =>
    ',' :: (newline (level + 1) ++ prettyChars (level + 1) item ++ prettyItems level rest)

/-- The members after the first on lines of their own, and the end of the object. -/
def prettyMembers (level : Nat) : List (Option String × Json) → List Char
  | [] => newline level ++ ['\x7d']
  | (name, value) :: rest =>
    ',' :: (newline (level + 1) ++ looseChars name ++ ':' :: ' ' ::
      (prettyChars (level + 1) value ++ prettyMembers level rest))

end

def pretty (j : Json) : String :=
  String.ofList (prettyChars 0 j)

end HostInventory.Json
