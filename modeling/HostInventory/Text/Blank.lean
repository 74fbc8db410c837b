/-!
# Blank characters

Blank is the White_Space property of Unicode. Trimming and cutting into words both go by it. All
functions work on lists of characters, so that each law is one induction.
-/

namespace HostInventory.Text

/-- The characters with the property White_Space. -/
def isBlank (c : Char) : Bool :=
  let n := c.toNat
  (9 ≤ n && n ≤ 13) || n == 0x20 || n == 0x85 || n == 0xA0 || n == 0x1680 ||
    (0x2000 ≤ n && n ≤ 0x200A) || n == 0x2028 || n == 0x2029 || n == 0x202F || n == 0x205F ||
    n == 0x3000

def trimStart (s : List Char) : List Char :=
  s.dropWhile isBlank

def trimEnd (s : List Char) : List Char :=
  (s.reverse.dropWhile isBlank).reverse

def trim (s : List Char) : List Char :=
  trimEnd (trimStart s)

def isBlankText (s : List Char) : Bool :=
  s.all isBlank

/-- The words of a text, the first of them collected in reverse so far. -/
def wordsFrom : List Char → List Char → List (List Char)
  | [], [] => []
  | [], word => [word.reverse]
  | c :: rest, word =>
    if isBlank c then
      if word.isEmpty then wordsFrom rest [] else word.reverse :: wordsFrom rest []
    else wordsFrom rest (c :: word)

/-- The longest runs of characters that are not blank, in order. -/
def words (s : List Char) : List (List Char) :=
  wordsFrom s []

end HostInventory.Text
