import HostInventory.Log.Event
import HostInventory.Text.Blank
import HostInventory.Text.Cut
import HostInventory.Text.Decimal
import HostInventory.Text.LetterTable

/-!
# Log filters

A filter says which events are worth writing down. It is a list of directives, separated by commas:
a level for everything, or a target with a level, where a target stands for all targets that begin
with it. Of the directives that an event falls under the most specific decides; of two directives
for the same target the later one counts.

A directive can also name a span or fields in brackets. No event is inside of a span here, so
naming a span keeps a directive from ever applying; naming fields restricts it to events that have
them.
-/

namespace HostInventory

/-- The least important level that passes; none passes where there is no level. -/
abbrev Threshold := Option Level

namespace Threshold

def admits (t : Threshold) (l : Level) : Bool :=
  t.any fun least => decide (least.weight ≤ l.weight)

/-- The levels that can be given by number. -/
def ofNumber? : Nat → Option Threshold
  | 0 => some none
  | 1 => some (some .error)
  | 2 => some (some .warn)
  | 3 => some (some .info)
  | 4 => some (some .debug)
  | 5 => some (some .trace)
  | _ => none

/-- The levels that can be given by name, in small letters. -/
def ofName? : String → Option Threshold
  | "off" => some none
  | "error" => some (some .error)
  | "warn" => some (some .warn)
  | "info" => some (some .info)
  | "debug" => some (some .debug)
  | "trace" => some (some .trace)
  | _ => none

/-- The level that a text stands for, a name in letters of either case or a number. -/
def ofText? (text : List Char) : Option Threshold :=
  let digits := match text with
    | '+' :: rest => rest
    | text => text
  match Decimal.ofText? (String.ofList digits) with
  | some n => ofNumber? n
  | none => ofName? (String.ofList (text.map Char.toLower))

end Threshold

/-- One rule of a filter. -/
structure Directive where
  target : Option (List Char)
  span : Option (List Char)
  /-- Names of fields, with a note of whether a value is asked for. -/
  fields : List (List Char × Bool)
  threshold : Threshold
deriving Repr, DecidableEq

namespace Directive

def all : Threshold :=
  some .trace

def isTargetStart (c : Char) : Bool :=
  c == '-' || c == ':' || c == '_' || Text.isAlphanumeric c

/-- A directive that is one word: a level, or a target of which everything passes. -/
def ofWord (word : List Char) : Directive :=
  match Threshold.ofText? word with
  | some t => ⟨none, none, [], t⟩
  | none => ⟨some word, none, [], all⟩

/-- The level after an equals sign; everything passes where it is left out. -/
def thresholdOf? (text : List Char) : Option Threshold :=
  if text.isEmpty then some all else Threshold.ofText? text

/-- The fields between braces. -/
def fieldsOf? (text : List Char) : Option (List (List Char × Bool)) :=
  (Text.splitAt (· == ',') text).mapM fun field =>
    if field.isEmpty then none
    else
      match Text.cutAt? (· == '=') field with
      | some (name, _) => some (name, true)
      | none => some (field, false)

/-- What follows the brackets: nothing, or a level. -/
def afterBrackets? : List Char → Option Threshold
  | [] => some all
  | '=' :: rest => thresholdOf? rest
  | _ => none

/-- A directive with brackets, from what follows the opening one. -/
def ofBrackets? (target : Option (List Char)) (s : List Char) : Option Directive := do
  match Text.cutAt? (fun c => c == ']' || c == '\x7b') s with
  | none => none
  | some (span, rest) =>
    if (s.drop span.length).head? = some ']' then
      return ⟨target, some span, [], ← afterBrackets? rest⟩
    else
      match Text.cutAt? (· == '\x7d') rest with
      | some (fields, ']' :: rest) =>
        let span := if span.isEmpty then none else some span
        return ⟨target, span, ← fieldsOf? fields, ← afterBrackets? rest⟩
      | _ => none

/-- Reads one directive. Blanks around it are no part of a level or target, yet are not allowed
beside one. -/
def ofText? (text : List Char) : Option Directive :=
  match Text.trim text with
  | [] => none
  | '[' :: rest => ofBrackets? none rest
  | c :: rest =>
    if !isTargetStart c then none
    else
      match Text.cutAt? (fun c => c == '=' || c == '[') (c :: rest) with
      | none => some (ofWord text)
      | some (target, after) =>
        if text.head?.any Text.isBlank then none
        else if ((c :: rest).drop target.length).head? = some '[' then
          ofBrackets? (some target) after
        else do
          let level := (text.drop target.length).drop 1
          return ⟨some target, none, [], ← thresholdOf? level⟩

/-- Whether the directive can apply outside of all spans. -/
def isStatic (d : Directive) : Bool :=
  d.span.isNone && d.fields.all fun (_, valued) => !valued

/-- Whether an event falls under the directive. -/
def covers (d : Directive) (target : List Char) (e : Event) : Bool :=
  (d.target.all fun t => Text.hasPrefix t target) &&
    d.fields.all fun (name, _) =>
      name == "message".toList || e.fields.any fun (n, _) => n.toList == name

/-- How specific a directive is: the length of its target, then the number of its fields. -/
def isMoreSpecific (a b : Directive) : Bool :=
  let size (d : Directive) : Nat := (d.target.map fun t => t.length + 1).getD 0
  decide (size b < size a) || (size a == size b && decide (b.fields.length < a.fields.length))

/-- Whether two directives are for the same events. -/
def sameScope (a b : Directive) : Bool :=
  a.target == b.target && a.fields.map (·.1) == b.fields.map (·.1)

end Directive

/-- Directives, the most specific first. -/
structure LogFilter where
  directives : List Directive
deriving Repr, DecidableEq

namespace LogFilter

/-- Adds a directive; one for the same events is replaced. -/
def insert (d : Directive) : List Directive → List Directive
  | [] => [d]
  | other :: rest =>
    if d.sameScope other then d :: rest
    else if d.isMoreSpecific other then d :: other :: rest
    else other :: insert d rest

/-- The filter of a text; nothing passes where there is no directive. -/
def ofText? (text : String) : Option LogFilter := do
  let pieces := (Text.splitAt (· == ',') text.toList).filter fun piece => !piece.isEmpty
  let directives ← pieces.mapM Directive.ofText?
  return ⟨(directives.filter Directive.isStatic).foldl (fun ds d => insert d ds) []⟩

def admits (f : LogFilter) (target : String) (e : Event) : Bool :=
  match f.directives.find? fun d => d.covers target.toList e with
  | some d => d.threshold.admits e.level
  | none => false

end LogFilter

end HostInventory
