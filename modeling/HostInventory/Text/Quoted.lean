import HostInventory.Text.PrintTable

/-!
# Quoted text

A text in double quotes, for messages. The quote, the backslash and the common control characters
are written as two-character escapes, and every other character that does not show by itself as
`\u` and its code point in hexadecimal between braces.
-/

namespace HostInventory.Text

/-- Whether a character shows by itself inside a quoted text. -/
def isPlain (c : Char) : Bool :=
  let n := c.toNat
  if n < 0x7F then decide (0x20 ≤ n)
  else !inRanges unprintableRanges n && !inRanges graphemeExtendRanges n

def hexDigits (n : Nat) : List Char :=
  Nat.toDigits 16 n

/-- One character as a quoted text shows it. -/
def quoteChar (c : Char) : List Char :=
  if c = '\x00' then ['\\', '0']
  else if c = '\t' then ['\\', 't']
  else if c = '\r' then ['\\', 'r']
  else if c = '\n' then ['\\', 'n']
  else if c = '"' then ['\\', '"']
  else if c = '\\' then ['\\', '\\']
  else if isPlain c then [c]
  else ['\\', 'u', '\x7b'] ++ hexDigits c.toNat ++ ['\x7d']

def quoted (s : String) : String :=
  String.ofList ('"' :: s.toList.flatMap quoteChar ++ ['"'])

/-- Texts in double quotes, separated by commas, in brackets. -/
def quotedList (texts : List String) : String :=
  "[" ++ ", ".intercalate (texts.map quoted) ++ "]"

end HostInventory.Text
