import HostInventory.Toml.Quote
import HostInventory.Toml.Scalar
import HostInventory.Toml.Tree

/-!
# Reading TOML

A document is a sequence of lines: headers that open tables, and keys with values. The reader takes
characters from the front and returns what is left; `none` means that the text is no document.
Blanks, line ends and comments may stand between all parts of an array or of a table in braces, and
a comma may follow their last part. Arrays and tables in braces may stand inside each other to a
fixed depth.
-/

namespace HostInventory.Toml

/-- How deep arrays and tables in braces may be nested. -/
def maxNesting : Nat :=
  80

def skipSpaces : List Char → List Char
  | ' ' :: rest => skipSpaces rest
  | '\t' :: rest => skipSpaces rest
  | rest => rest

/-- Drops spaces, tabs, line ends and comments; nothing when a comment holds a character that may
not stand in one. -/
def skipVoid (inComment : Bool) : List Char → Option (List Char)
  | [] => some []
  | '\n' :: rest => skipVoid false rest
  | '\r' :: '\n' :: rest => skipVoid false rest
  | c :: rest =>
    if inComment then (if isPlainChar c then skipVoid true rest else none)
    else if c = ' ' ∨ c = '\t' then skipVoid false rest
    else if c = '#' then skipVoid true rest
    else some (c :: rest)

/-- What follows the end of a line, blanks and a comment before it dropped. -/
def endLine (s : List Char) : Option (List Char) :=
  let rest := match skipSpaces s with
    | '#' :: comment => comment.dropWhile isPlainChar
    | rest => rest
  match rest with
  | [] => some []
  | '\n' :: rest => some rest
  | '\r' :: '\n' :: rest => some rest
  | _ => none

/-- Whether a character may stand in a name without quotes. -/
def isNameChar (c : Char) : Bool :=
  c.isAlphanum || c == '_' || c == '-'

def readName (s : List Char) : Option (String × List Char) :=
  match s.takeWhile isNameChar with
  | [] => (readShortQuote? s).map fun (name, rest) => (String.ofList name, rest)
  | name => some (String.ofList name, s.dropWhile isNameChar)

/-- Reads names with dots between them, at most so many; the last one apart. -/
def readKey : Nat → List Char → Option ((List String × String) × List Char)
  | 0, _ => none
  | n + 1, s => do
    let (name, rest) ← readName (skipSpaces s)
    match skipSpaces rest with
    | '.' :: rest =>
      let ((path, last), rest) ← readKey n rest
      return ((name :: path, last), rest)
    | rest => return (([], name), rest)

def isTokenChar (c : Char) : Bool :=
  !" \t\r\n#,[]\x7b\x7d\"'=".toList.contains c

/-- Reads a value of one token; a blank may stand between a date and a time. -/
def readScalar (s : List Char) : Option (Toml × List Char) :=
  let token := s.takeWhile isTokenChar
  let rest := s.dropWhile isTokenChar
  match afterDate? token, rest with
  | some [], ' ' :: c :: rest' =>
    if Decimal.isDigit c then
      let token := token ++ ' ' :: (c :: rest').takeWhile isTokenChar
      (scalar? token).map fun v => (v, (c :: rest').dropWhile isTokenChar)
    else (scalar? token).map fun v => (v, rest)
  | _, _ => (scalar? token).map fun v => (v, rest)

/-- Reads the items of an array after its opening bracket, and its end. -/
def readItems (readItem : List Char → Option (Toml × List Char)) :
    Nat → List Char → Option (List Toml × List Char)
  | 0, _ => none
  | n + 1, s => do
    match ← skipVoid false s with
    | ']' :: rest => return ([], rest)
    | s =>
      let (item, rest) ← readItem s
      match ← skipVoid false rest with
      | ',' :: rest =>
        let (items, rest) ← readItems readItem n rest
        return (item :: items, rest)
      | ']' :: rest => return ([item], rest)
      | _ => none

/-- Reads the members of a table after its opening brace, and its end. -/
def readMembers (readItem : List Char → Option (Toml × List Char)) :
    Nat → Members → List Char → Option (Members × List Char)
  | 0, _, _ => none
  | n + 1, members, s => do
    match ← skipVoid false s with
    | '\x7d' :: rest => return (members, rest)
    | s =>
      let ((path, name), rest) ← readKey s.length s
      match rest with
      | '=' :: rest =>
        let (value, rest) ← readItem (skipSpaces rest)
        let members ← addValue path name value .declared members
        match ← skipVoid false rest with
        | ',' :: rest => readMembers readItem n members rest
        | '\x7d' :: rest => return (members, rest)
        | _ => none
      | _ => none

/-- Reads a value in which arrays and tables are nested at most so deep. -/
def readValue : Nat → List Char → Option (Toml × List Char)
  | depth, s =>
    match s with
    | '"' :: _ => (readQuote? s).map fun (text, rest) => (.string (String.ofList text), rest)
    | '\'' :: _ => (readQuote? s).map fun (text, rest) => (.string (String.ofList text), rest)
    | '[' :: rest =>
      match depth with
      | 0 => none
      | depth + 1 =>
        (readItems (readValue depth) s.length rest).map fun (items, rest) => (.array items, rest)
    | '\x7b' :: rest =>
      match depth with
      | 0 => none
      | depth + 1 =>
        (readMembers (readValue depth) s.length [] rest).map fun (members, rest) =>
          (.table (closeMembers members), rest)
    | s => readScalar s

/-- A document as far as it has been read: all tables, and the names of the last header. -/
structure Draft where
  members : Members
  opened : List String

/-- Reads a header after its first bracket. -/
def readHeader (d : Draft) (s : List Char) : Option (Draft × List Char) := do
  match s with
  | '[' :: rest =>
    let ((path, name), rest) ← readKey s.length rest
    let rest ← Text.afterPrefix? [']', ']'] rest
    let members ← openNext path name d.members
    return (⟨members, path ++ [name]⟩, ← endLine rest)
  | s =>
    let ((path, name), rest) ← readKey (s.length + 1) s
    let rest ← Text.afterPrefix? [']'] rest
    let members ← openTable path name d.members
    return (⟨members, path ++ [name]⟩, ← endLine rest)

def readPair (d : Draft) (s : List Char) : Option (Draft × List Char) := do
  let ((path, name), rest) ← readKey s.length s
  let rest ← Text.afterPrefix? ['='] rest
  let (value, rest) ← readValue maxNesting (skipSpaces rest)
  let members ← inOpened (addValue path name value) d.opened .declared d.members
  return (⟨members, d.opened⟩, ← endLine rest)

/-- Reads lines to the end, at most so many. -/
def readLines : Nat → Draft → List Char → Option Draft
  | 0, _, _ => none
  | n + 1, d, s => do
    match ← skipVoid false s with
    | [] => return d
    | '[' :: rest =>
      let (d, rest) ← readHeader d rest
      readLines n d rest
    | s =>
      let (d, rest) ← readPair d s
      readLines n d rest

def dropMark : List Char → List Char
  | '\uFEFF' :: rest => rest
  | rest => rest

/-- The table of a document, if the text is one. -/
def parse? (text : String) : Option (List (String × Toml)) :=
  let s := dropMark text.toList
  (readLines (s.length + 1) ⟨[], []⟩ s).map fun d => closeMembers d.members

end HostInventory.Toml
