import HostInventory.Shell.Syntax
import HostInventory.Text.Decimal

/-!
# Reading shell programs

A program is read a line at a time, since the lines in front of a mistake still run. A reader takes
characters from the front; a bound on its depth is computed from the length of the text.
-/

namespace HostInventory.Shell

/-- What is left of the text of a program, how many line ends the whole of it has, and how deep
readers may call each other. -/
structure Cursor where
  rest : List Char
  lineEnds : Nat

/-- Takes characters from the front of a text, or finds a mistake. -/
abbrev Reader := StateT Cursor (Except SyntaxError)

namespace Reader

def rest : Reader (List Char) := do
  return (← get).rest

def setRest (rest : List Char) : Reader Unit :=
  modify fun r => { r with rest }

def line : Reader Nat := do
  let r ← get
  return r.lineEnds + 1 - r.rest.count '\n'

def mistake {α : Type} (text : String) : Reader α := do
  throw ⟨← line, text⟩

/-- The token at the front, as a complaint names it. -/
def tokenName : List Char → String
  | [] => "end of file"
  | '\n' :: _ => "newline"
  | '&' :: '&' :: _ => "\"&&\""
  | '|' :: '|' :: _ => "\"||\""
  | ';' :: ';' :: _ => "\";;\""
  | c :: _ => "\"" ++ String.ofList [c] ++ "\""

/-- The token at the front is not expected. -/
def unexpected {α : Type} : Reader α := do
  mistake (tokenName (← rest) ++ " unexpected")

/-- Whether a character ends a word. -/
def isMeta (c : Char) : Bool :=
  [' ', '\t', '\n', ';', '&', '|', '<', '>', '(', ')'].contains c

/-- Whether a character may stand in the name of a variable. -/
def isNameChar (c : Char) : Bool :=
  c.isAlphanum || c == '_'

/-- Drops blanks, and a comment behind them. -/
def dropBlanks : List Char → List Char
  | ' ' :: rest => dropBlanks rest
  | '\t' :: rest => dropBlanks rest
  | '\\' :: '\n' :: rest => dropBlanks rest
  | '#' :: rest => rest.dropWhile (· != '\n')
  | rest => rest

def skipBlanks : Reader Unit := do
  setRest (dropBlanks (← rest))

/-- Drops blanks, comments and line ends, at most so many of these. -/
def dropLines : Nat → List Char → List Char
  | 0, text => text
  | n + 1, text =>
    match dropBlanks text with
    | '\n' :: text => dropLines n text
    | text => text

def skipLines : Reader Unit := do
  let text ← rest
  setRest (dropLines (text.length + 1) text)

/-- Takes given characters from the front if they are there. -/
def took (mark : String) : Reader Bool := do
  let text ← rest
  if mark.toList.isPrefixOf text then
    setRest (text.drop mark.length)
    return true
  return false

/-- Whether a character makes a word more than plain. -/
def isQuoting (c : Char) : Bool :=
  ['\'', '"', '$', '`', '\\'].contains c

/-- Whether a backslash in double quotes escapes a character. -/
def isEscapable (c : Char) : Bool :=
  ['$', '`', '"', '\\', '\x7d'].contains c

def plainWord (text : List Char) : String :=
  String.ofList (text.takeWhile fun c => !isMeta c && !isQuoting c)

/-- Takes a reserved word from the front if it is there. -/
def tookWord (word : String) : Reader Bool := do
  let text := dropBlanks (← rest)
  if plainWord text == word then
    setRest (text.drop word.length)
    return true
  return false

/-- Takes a reserved word, which has to be there. -/
def expectWord (word : String) : Reader Unit := do
  skipLines
  if !(← tookWord word) then
    mistake (tokenName (← rest) ++ " unexpected (expecting \"" ++ word ++ "\")")

/-- The words that end a list of commands. -/
def closingWords : List String :=
  ["then", "else", "elif", "fi", "do", "done", "\x7d"]

def pushText (quoted : Bool) (chars : List Char) : List Piece → List Piece
  | .text quoted' chars' :: pieces =>
    if quoted == quoted' then .text quoted (chars ++ chars') :: pieces
    else .text quoted chars :: .text quoted' chars' :: pieces
  | pieces => .text quoted chars :: pieces

/-- Characters up to the end of brackets that were opened so many times. -/
def balanced : Nat → List Char → Option (List Char × List Char)
  | _, [] => none
  | depth, '(' :: rest => (balanced (depth + 1) rest).map fun (t, r) => ('(' :: t, r)
  | 0, ')' :: rest => some ([], rest)
  | depth + 1, ')' :: rest => (balanced depth rest).map fun (t, r) => (')' :: t, r)
  | depth, c :: rest => (balanced depth rest).map fun (t, r) => (c :: t, r)

/-- Characters up to a backquote, backslashes in front of backquotes taken away. -/
def backquoted : List Char → Option (List Char × List Char)
  | [] => none
  | '`' :: rest => some ([], rest)
  | '\\' :: '`' :: rest => (backquoted rest).map fun (t, r) => ('`' :: t, r)
  | c :: rest => (backquoted rest).map fun (t, r) => (c :: t, r)

/-- Reads another text with a reader, and goes on behind it. -/
def within {α : Type} (text after : List Char) (reader : Reader α) : Reader α := do
  setRest text
  let a ← reader
  setRest after
  return a

/-- The number of a stream in front of a redirection, if one is there. -/
def streamNumber? (text : List Char) : Option (Option Nat × List Char) :=
  let digits := text.takeWhile Decimal.isDigit
  match text.dropWhile Decimal.isDigit with
  | c :: rest =>
    if c == '<' || c == '>' then
      some (if digits.isEmpty then none else some (Decimal.value digits), c :: rest)
    else none
  | [] => none

/-- The variable that a word sets, and what follows the equals sign. -/
def assigned? (text : List Char) : Option (String × List Char) :=
  let name := text.takeWhile isNameChar
  match name, text.dropWhile isNameChar with
  | c :: cs, '=' :: rest =>
    if Decimal.isDigit c then none else some (String.ofList (c :: cs), rest)
  | _, _ => none

/-- How an alternative is written, a colon in front taken away. -/
def alternative? : Char → Option Alternative
  | '-' => some .useInstead
  | '=' => some .assign
  | '+' => some .whenSet
  | _ => none

mutual

/-- The pieces up to a character, in quotes or not. -/
def pieces : Nat → (Char → Bool) → Bool → Reader (List Piece)
  | 0, _, _ => unexpected
  | n + 1, stop, quoted => do
    match ← rest with
    | [] => return []
    | c :: text =>
      if stop c then return []
      setRest text
      match c, text with
      | '\\', '\n' :: text =>
        setRest text
        pieces n stop quoted
      | '\\', d :: text =>
        if quoted && !isEscapable d then
          return pushText true ['\\'] (← pieces n stop quoted)
        setRest text
        return pushText true [d] (← pieces n stop quoted)
      | '\'', text =>
        if quoted then return pushText true ['\''] (← pieces n stop quoted)
        let inside := text.takeWhile (· != '\'')
        match text.dropWhile (· != '\'') with
        | [] => setRest []; mistake "Unterminated quoted string"
        | _ :: text =>
          setRest text
          return pushText true inside (← pieces n stop quoted)
      | '"', _ =>
        if quoted then return pushText true ['"'] (← pieces n stop quoted)
        let inside ← pieces n (· == '"') true
        if !(← took "\"") then mistake "Unterminated quoted string"
        let after ← pieces n stop quoted
        return (if inside.isEmpty then [.text true []] else inside) ++ after
      | '`', text =>
        match backquoted text with
        | none => setRest []; mistake "EOF in backquote substitution"
        | some (inside, after) =>
          let program ← within inside after (nodes n)
          return .output quoted program :: (← pieces n stop quoted)
      | '$', _ =>
        match ← dollar n quoted with
        | some piece => return piece :: (← pieces n stop quoted)
        | none => return pushText quoted ['$'] (← pieces n stop quoted)
      | c, _ => return pushText quoted [c] (← pieces n stop quoted)

/-- What stands behind a dollar sign, if it means anything. -/
def dollar : Nat → Bool → Reader (Option Piece)
  | 0, _ => unexpected
  | n + 1, quoted => do
    let text ← rest
    match text with
    | '(' :: '(' :: inside =>
      match balanced 0 inside with
      | some (expression, ')' :: after) =>
        return some (.sum quoted (← within expression after (pieces n (fun _ => false) true)))
      | _ => setRest []; unexpected
    | '(' :: inside =>
      setRest inside
      let program ← nodes n
      if !(← took ")") then unexpected
      return some (.output quoted program)
    | '\x7b' :: '#' :: inside =>
      let name := inside.takeWhile isNameChar
      setRest (inside.drop name.length)
      if name.isEmpty then
        if !(← took "\x7d") then unexpected
        return some (.variable quoted "#" false none)
      if !(← took "\x7d") then mistake "Bad substitution"
      return some (.length quoted (String.ofList name))
    | '\x7b' :: inside =>
      let plain := inside.takeWhile isNameChar
      let name := if plain.isEmpty then inside.take 1 else plain
      setRest (inside.drop name.length)
      let orEmpty ← took ":"
      match ← rest with
      | '\x7d' :: after =>
        setRest after
        return some (.variable quoted (String.ofList name) false none)
      | c :: after =>
        match alternative? c with
        | none => mistake "Bad substitution"
        | some alternative =>
          setRest after
          let other ← pieces n (· == '\x7d') quoted
          if !(← took "\x7d") then mistake "Missing '\x7d'"
          return some (.variable quoted (String.ofList name) orEmpty (some (alternative, other)))
      | [] => mistake "Missing '\x7d'"
    | c :: after =>
      if Decimal.isDigit c || ['@', '*', '#', '?', '$', '!', '-'].contains c then
        setRest after
        return some (.variable quoted (String.ofList [c]) false none)
      let name := text.takeWhile isNameChar
      if name.isEmpty then return none
      setRest (text.drop name.length)
      return some (.variable quoted (String.ofList name) false none)
    | [] => return none

def word : Nat → Reader Word
  | 0 => unexpected
  | n + 1 => do
    match ← pieces n isMeta false with
    | [] => unexpected
    | word => return word

def redirections : Nat → Reader (List Redirection)
  | 0 => unexpected
  | n + 1 => do
    skipBlanks
    match streamNumber? (← rest) with
    | none => return []
    | some (stream, text) =>
      setRest text
      let into := stream.getD 1
      let from' := stream.getD 0
      let one ←
        if ← took ">>" then do skipBlanks; pure (.file into .appends (← word n))
        else if ← took ">&" then do skipBlanks; pure (.copy into (← word n))
        else if ← took ">|" then do skipBlanks; pure (.file into .creates (← word n))
        else if ← took ">" then do skipBlanks; pure (.file into .creates (← word n))
        else if ← took "<&" then do skipBlanks; pure (.copy from' (← word n))
        else do
          discard (took "<")
          skipBlanks
          pure (.file from' .reads (← word n))
      return one :: (← redirections n)

/-- The parts of a simple command: variables, words and redirections. -/
def parts : Nat → Bool → Reader (List (String × Word) × List Word × List Redirection)
  | 0, _ => unexpected
  | n + 1, named => do
    skipBlanks
    let text ← rest
    if (streamNumber? text).isSome then
      let first ← redirections n
      let (bindings, words, more) ← parts n named
      return (bindings, words, first ++ more)
    match text with
    | [] => return ([], [], [])
    | c :: _ =>
      if isMeta c then return ([], [], [])
      match if named then none else assigned? text with
      | some (name, text) =>
        setRest text
        let value ← pieces n isMeta false
        let (bindings, words, redirections) ← parts n named
        return ((name, value) :: bindings, words, redirections)
      | none =>
        let first ← word n
        let (bindings, words, redirections) ← parts n true
        return (bindings, first :: words, redirections)

def command : Nat → Reader Node
  | 0 => unexpected
  | n + 1 => do
    skipBlanks
    if ← took "(" then
      let body ← nodes n
      if !(← took ")") then unexpected
      return .block true body (← redirections n)
    if ← tookWord "\x7b" then
      let body ← nodes n
      expectWord "\x7d"
      return .block false body (← redirections n)
    if ← tookWord "if" then
      let (branches, otherwise) ← branches n
      return .choice branches otherwise (← redirections n)
    if ← tookWord "while" then
      let (condition, body) ← loopParts n
      return .loop true condition body (← redirections n)
    if ← tookWord "until" then
      let (condition, body) ← loopParts n
      return .loop false condition body (← redirections n)
    if ← tookWord "for" then
      skipBlanks
      let name := plainWord (← rest)
      setRest ((← rest).drop name.length)
      skipLines
      let words ←
        if ← tookWord "in" then do
          let (_, words, _) ← parts n true
          pure (some words)
        else pure none
      skipBlanks
      discard (took ";")
      expectWord "do"
      let body ← nodes n
      expectWord "done"
      return .each name words body (← redirections n)
    let line ← line
    if closingWords.contains (plainWord (← rest)) then
      mistake ("\"" ++ plainWord (← rest) ++ "\" unexpected")
    match ← parts n false with
    | ([], [], []) => unexpected
    | (bindings, words, redirections) => return .simple line bindings words redirections

/-- The condition and the body of a loop. -/
def loopParts : Nat → Reader (List Node × List Node)
  | 0 => unexpected
  | n + 1 => do
    let condition ← nodes n
    expectWord "do"
    let body ← nodes n
    expectWord "done"
    return (condition, body)

/-- The branches of a choice, and what runs when no condition is met. -/
def branches : Nat → Reader (List (List Node × List Node) × List Node)
  | 0 => unexpected
  | n + 1 => do
    let condition ← nodes n
    expectWord "then"
    let body ← nodes n
    skipLines
    if ← tookWord "elif" then
      let (more, otherwise) ← branches n
      return ((condition, body) :: more, otherwise)
    if ← tookWord "else" then
      let otherwise ← nodes n
      expectWord "fi"
      return ([(condition, body)], otherwise)
    expectWord "fi"
    return ([(condition, body)], [])

def stages : Nat → Reader (List Node)
  | 0 => unexpected
  | n + 1 => do
    skipBlanks
    match ← rest with
    | '|' :: '|' :: _ => return []
    | '|' :: text =>
      setRest text
      skipLines
      let stage ← command n
      return stage :: (← stages n)
    | _ => return []

/-- A pipeline; a single command that is not negated stands for itself. -/
def pipeline : Nat → Reader Node
  | 0 => unexpected
  | n + 1 => do
    let negated ← tookWord "!"
    let first ← command n
    match negated, ← stages n with
    | false, [] => return first
    | negated, more => return .pipeline negated (first :: more)

/-- The pipelines that are joined to one before them. -/
def joined : Nat → Node → Reader Node
  | 0, _ => unexpected
  | n + 1, first => do
    skipBlanks
    if ← took "&&" then
      skipLines
      joined n (.both first (← pipeline n))
    else if ← took "||" then
      skipLines
      joined n (.either first (← pipeline n))
    else return first

/-- The commands up to the end of a line, or of what encloses them. -/
def lineNodes : Nat → Reader (List Node)
  | 0 => unexpected
  | n + 1 => do
    skipBlanks
    let text ← rest
    match text with
    | [] => return []
    | '\n' :: _ => return []
    | ')' :: _ => return []
    | _ =>
      if closingWords.contains (plainWord text) then return []
      let node ← joined n (← pipeline n)
      skipBlanks
      match ← rest with
      | ';' :: ';' :: _ => return [node]
      | ';' :: text =>
        setRest text
        return node :: (← lineNodes n)
      | '&' :: text =>
        setRest text
        return .background node :: (← lineNodes n)
      | _ => return [node]

/-- The commands up to the end of what encloses them. -/
def nodes : Nat → Reader (List Node)
  | 0 => unexpected
  | n + 1 => do
    skipLines
    match ← lineNodes n with
    | [] => return []
    | first =>
      skipBlanks
      match ← rest with
      | '\n' :: _ => return first ++ (← nodes n)
      | _ => return first

end

end Reader

/-- The commands on the first line of a text that has any, and the rest of the text; none when there
are no commands left. -/
def readLine (lineEnds : Nat) (text : List Char) :
    Except SyntaxError (Option (List Node × List Char)) := do
  let reader : Reader (List Node) := do
    Reader.skipLines
    let line ← Reader.lineNodes (8 * text.length + 8)
    match ← Reader.rest with
    | [] => return line
    | '\n' :: _ => return line
    | text =>
      let word := Reader.plainWord text
      if Reader.closingWords.contains word then
        Reader.mistake ("\"" ++ word ++ "\" unexpected")
      Reader.unexpected
  let (line, cursor) ← reader.run ⟨text, lineEnds⟩
  return if line.isEmpty then none else some (line, cursor.rest)

end HostInventory.Shell
