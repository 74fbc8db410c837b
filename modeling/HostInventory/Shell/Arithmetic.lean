import HostInventory.Text.Blank
import HostInventory.Text.Decimal

/-!
# Arithmetic of shells

An expression has whole numbers, variables, brackets, signs and five operators, of which
multiplication, division and remainder bind more strongly than sum and difference. Division cuts
off towards zero.
-/

namespace HostInventory.Shell.Arithmetic

/-- A value with what stands behind it. -/
abbrev Reading := Option (Int × List Char)

/-- The characters of an expression that say something. -/
def tokens (expression : String) : List Char :=
  expression.toList.filter (!Text.isBlank ·)

/-- Applies an operator; nothing for a division by zero or another character. -/
def combine? (operator : Char) (left right : Int) : Option Int :=
  match operator with
  | '+' => some (left + right)
  | '-' => some (left - right)
  | '*' => some (left * right)
  | '/' => if right = 0 then none else some (left.tdiv right)
  | '%' => if right = 0 then none else some (left.tmod right)
  | _ => none

mutual

/-- A number, a variable, or an expression with brackets or a sign. -/
def single (valueOf : String → Int) : Nat → List Char → Reading
  | 0, _ => none
  | n + 1, '-' :: rest => (single valueOf n rest).map fun (v, rest) => (-v, rest)
  | n + 1, '+' :: rest => single valueOf n rest
  | n + 1, '(' :: rest => do
    let (v, rest) ← sums valueOf n rest
    match rest with
    | ')' :: rest => return (v, rest)
    | _ => none
  | _ + 1, text =>
    let digits := text.takeWhile Decimal.isDigit
    if !digits.isEmpty then some (Decimal.value digits, text.drop digits.length)
    else
      let text := if text.head? == some '$' then text.drop 1 else text
      let name := text.takeWhile fun c => c.isAlphanum || c == '_'
      if name.isEmpty then none
      else some (valueOf (String.ofList name), text.drop name.length)

/-- Goes on with operators of a kind behind a left side. -/
def chain (valueOf : String → Int) : Nat → Bool → Int → List Char → Reading
  | 0, _, _, _ => none
  | n + 1, strong, left, operator :: rest =>
    if (if strong then ['*', '/', '%'] else ['+', '-']).contains operator then do
      let (right, rest) ← if strong then single valueOf n rest else products valueOf n rest
      chain valueOf n strong (← combine? operator left right) rest
    else some (left, operator :: rest)
  | _ + 1, _, left, [] => some (left, [])

def products (valueOf : String → Int) : Nat → List Char → Reading
  | 0, _ => none
  | n + 1, text => do
    let (left, rest) ← single valueOf n text
    chain valueOf n true left rest

def sums (valueOf : String → Int) : Nat → List Char → Reading
  | 0, _ => none
  | n + 1, text => do
    let (left, rest) ← products valueOf n text
    chain valueOf n false left rest

end

/-- The value of an expression; an empty one is zero. -/
def evaluate? (valueOf : String → Int) (expression : String) : Option Int :=
  match tokens expression with
  | [] => some 0
  | text =>
    match sums valueOf (4 * text.length + 4) text with
    | some (v, []) => some v
    | _ => none

end HostInventory.Shell.Arithmetic
