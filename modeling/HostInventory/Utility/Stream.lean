import HostInventory.Utility.Basic

/-!
# Utilities that read and make streams

Copying, cutting off, counting and repeating octets, counting numbers up, and waiting.
-/

namespace HostInventory.Utility

/-- Copies sources one after the other; a missing one is complained about and passed over. -/
def catFrom (c : Call) (w : Work) : List String → Work
  | [] => w
  | path :: paths =>
    let (source, rest) :=
      if path = "-" then (.ok w.rest, Source.nothing) else (Source.ofPath c.tree path, w.rest)
    match source with
    | .error e =>
      let complaint := Utf8.encode (c.name ++ ": " ++ path ++ ": " ++ failureText e ++ "\n")
      let life := { w.life with
        written := w.life.written ++ [(.errors, complaint)], fate := .ends (.exited 1) }
      catFrom c ⟨life, w.rest⟩ paths
    | .ok .terminal => ⟨{ w.life with fate := .endless [] }, rest⟩
    | .ok (.octets content refrain) =>
      let life := { w.life with written := w.life.written ++ [(.standard, content)] }
      if refrain.isEmpty then catFrom c ⟨life, rest⟩ paths
      else ⟨{ life with fate := .endless refrain }, rest⟩

def cat (c : Call) : Work :=
  catFrom c (c.ends 0) (if c.args.isEmpty then ["-"] else c.args)

/-- The source of a utility that reads a single one: its input, or what a path gives. -/
def sourceOf (c : Call) (path : Option String) : Except SystemError Source :=
  match path with
  | none => .ok c.input
  | some path => Source.ofPath c.tree path

/-- Copies the first part of a source, found by a reader that may wait for ever. -/
def copies (c : Call) (path : Option String) (take : Source → Option (Octets × Source)) : Work :=
  match sourceOf c path with
  | .error e =>
    c.complains ("cannot open '" ++ path.getD "" ++ "' for reading: " ++ failureText e) 1
  | .ok source =>
    match take source with
    | none => c.repeats []
    | some (taken, rest) =>
      { c.writes taken 0 with rest := if path.isSome then c.input else rest }

def head (c : Call) : Work :=
  let octets (count : String) (path : Option String) :=
    copies c path (Source.take? ((Decimal.ofText? count).getD 0))
  let lines (count : String) (path : Option String) :=
    copies c path (Source.takeLines? ((Decimal.ofText? count).getD 0))
  match c.args with
  | "-c" :: count :: paths => octets count paths.head?
  | "-n" :: count :: paths => lines count paths.head?
  | [] => lines "10" none
  | word :: paths =>
    match word.toList with
    | '-' :: 'c' :: count => octets (String.ofList count) paths.head?
    | '-' :: 'n' :: count => lines (String.ofList count) paths.head?
    | '-' :: count => lines (String.ofList count) paths.head?
    | _ => lines "10" (some word)

/-- How many words there are, a word being what stands between blanks. -/
def wordCount (octets : Octets) : Nat :=
  let isBlank (o : UInt8) := o == 32 || (decide (9 ≤ o) && decide (o ≤ 13))
  (octets.foldl (fun (count, inWord) o =>
    if isBlank o then (count, false) else (if inWord then count else count + 1, true))
    ((0, false) : Nat × Bool)).1

/-- Counts lines, words and octets, or what is asked for of them. -/
def wc (c : Call) : Work :=
  let options := (c.args.filter fun word => word.startsWith "-").flatMap fun word =>
    word.toList.drop 1
  let path := c.args.find? fun word => !word.startsWith "-"
  match sourceOf c path with
  | .error e => c.complains (path.getD "" ++ ": " ++ failureText e) 1
  | .ok source =>
    match source.all? with
    | none => c.repeats []
    | some octets =>
      let counts := [('l', octets.count 10), ('w', wordCount octets), ('c', octets.length)]
      let asked := if options.isEmpty then counts else counts.filter (options.contains ·.1)
      let width :=
        if asked.length = 1 then 0
        else if path.isSome then (Decimal.digits octets.length).length
        else 7
      let texts := asked.map fun (_, n) =>
        let digits := Decimal.digits n
        String.ofList (List.replicate (width - digits.length) ' ' ++ digits)
      let name := (path.map (" " ++ ·)).getD ""
      { c.prints (" ".intercalate texts ++ name ++ "\n") with
        rest := if path.isSome then c.input else .nothing }

def yes (c : Call) : Work :=
  c.repeats (Utf8.encode ((if c.args.isEmpty then "y" else " ".intercalate c.args) ++ "\n"))

/-- Numbers from one to another, a line each. -/
def seq (c : Call) : Work :=
  let count (first last : Int) : Work :=
    let numbers := (List.range (last - first + 1).toNat).map fun (i : Nat) => first + i
    c.prints (String.join (numbers.map fun n => Decimal.signedText n ++ "\n"))
  match c.args.map String.toInt? with
  | [some last] => count 1 last
  | [some first, some last] => count first last
  | _ => c.complains "missing operand" 1

/-- A span of time in nanoseconds, given as a decimal number and perhaps a unit. -/
def spanNanos? (word : String) : Option Nat := do
  let chars := word.toList
  let whole := chars.takeWhile Decimal.isDigit
  let rest := chars.dropWhile Decimal.isDigit
  let (fraction, unit) :=
    match rest with
    | '.' :: rest => (rest.takeWhile Decimal.isDigit, rest.dropWhile Decimal.isDigit)
    | rest => ([], rest)
  if whole.isEmpty && fraction.isEmpty then none
  let nanos := Decimal.value whole * 1000000000 +
    Decimal.value ((fraction ++ List.replicate 9 '0').take 9)
  match unit with
  | [] => some nanos
  | ['s'] => some nanos
  | ['m'] => some (nanos * 60)
  | ['h'] => some (nanos * 3600)
  | ['d'] => some (nanos * 86400)
  | _ => none

/-- Waits for the sum of some spans of time. -/
def sleep (c : Call) : Work :=
  let hint := "\nTry '" ++ c.name ++ " --help' for more information."
  if c.args = ["infinity"] then c.repeats []
  else if c.args.isEmpty then c.complains ("missing operand" ++ hint) 1
  else
    match c.args.find? fun word => (spanNanos? word).isNone with
    | some word => c.complains ("invalid time interval '" ++ word ++ "'" ++ hint) 1
    | none =>
      let nanos := (c.args.map fun word => (spanNanos? word).getD 0).foldr (· + ·) 0
      ⟨⟨[], nanos, .ends (.exited 0)⟩, c.input⟩

end HostInventory.Utility
