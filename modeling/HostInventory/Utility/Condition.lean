import HostInventory.Utility.Basic

/-!
# Conditions

`test` answers by its status whether what its words say is so: about files, texts, numbers and
streams that are a terminal.
-/

namespace HostInventory.Utility

def entryAt? (t : FileTree) (path : String) : Option Entry :=
  (t.locate path).toOption.bind t.get?

/-- A question about one word, if the operator asks one. -/
def ask? (c : Call) (operator word : String) : Option Bool :=
  let entry := entryAt? c.tree word
  match operator with
  | "-n" => some (!word.isEmpty)
  | "-z" => some word.isEmpty
  | "-t" => some ((Decimal.ofText? word).any c.terminals.contains)
  | "-e" => some entry.isSome
  | "-f" => some (entry.any fun e => !e.isDirectory)
  | "-d" => some (entry.any Entry.isDirectory)
  | "-r" => some (entry.any Entry.isReadable)
  | "-w" => some (entry.any Entry.isWritable)
  | "-x" => some (entry.any Entry.isSearchable)
  | "-s" => some (entry.any fun
    | .file _ content => !content.isEmpty
    | _ => true)
  | _ => none

/-- How an operator compares two texts. -/
def textOperator? : String → Option (String → String → Bool)
  | "=" => some (· == ·)
  | "!=" => some (· != ·)
  | _ => none

/-- How an operator compares two numbers. -/
def numberOperator? : String → Option (Int → Int → Bool)
  | "-eq" => some (· == ·)
  | "-ne" => some (· != ·)
  | "-lt" => some fun m n => decide (m < n)
  | "-le" => some fun m n => decide (m ≤ n)
  | "-gt" => some fun m n => decide (n < m)
  | "-ge" => some fun m n => decide (n ≤ m)
  | _ => none

/-- The number that a word is, or a complaint that it is none. -/
def numberIn (word : String) : Except String Int :=
  match word.toInt? with
  | some n => .ok n
  | none => .error ("Illegal number: " ++ word)

/-- A complaint about a word that is no operator. -/
def noOperator {α : Type} (word : String) : Except String α :=
  .error (word ++ ": unexpected operator")

/-- Whether what the words say is so, or a complaint that they say nothing. -/
def holds (c : Call) : List String → Except String Bool
  | [] => .ok false
  | [word] => .ok (!word.isEmpty)
  | ["!", word] => .ok word.isEmpty
  | [operator, word] =>
    match ask? c operator word with
    | some answer => .ok answer
    | none => noOperator operator
  | [left, operator, right] =>
    match textOperator? operator, numberOperator? operator with
    | some compare, _ => .ok (compare left right)
    | none, some compare => do return compare (← numberIn left) (← numberIn right)
    | none, none =>
      if left = "!" then
        match ask? c operator right with
        | some answer => .ok !answer
        | none => noOperator operator
      else noOperator left
  | "!" :: words => (holds c words).map (!·)
  | word :: _ => noOperator word

def answerStatus (c : Call) (words : List String) : Work :=
  match holds c words with
  | .ok true => c.ends 0
  | .ok false => c.ends 1
  | .error complaint => c.complains complaint 2

def test (c : Call) : Work :=
  answerStatus c c.args

/-- The same with a closing bracket behind the words. -/
def bracket (c : Call) : Work :=
  match c.args.getLast? with
  | some "]" => answerStatus c c.args.dropLast
  | _ => c.complains "missing ]" 2

end HostInventory.Utility
