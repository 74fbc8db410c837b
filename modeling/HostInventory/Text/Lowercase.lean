import HostInventory.Text.CaseTable

/-!
# Lower-casing

Each character is replaced by its lower-case form, which is one character except for a capital I
with a dot. A capital sigma becomes the final form when a cased letter stands before it and none
after it, case-ignorable characters in between not counting.
-/

namespace HostInventory.Text

/-- The lower-case form of a character, the sigma rule apart. -/
def lowerChar (c : Char) : List Char :=
  let n := c.toNat
  if n < 0x80 then
    if 0x41 ≤ n ∧ n ≤ 0x5A then [Char.ofNat (n + 0x20)] else [c]
  else if n = 0x130 then ['i', '\u0307']
  else
    match caseRuns.find? (·.covers n) with
    | some run => [Char.ofNat (run.apply n)]
    | none => [c]

/-- The property Cased. -/
def isCased (c : Char) : Bool :=
  inRanges casedRanges c.toNat

/-- The property Case_Ignorable. -/
def isCaseIgnorable (c : Char) : Bool :=
  inRanges caseIgnorableRanges c.toNat

/-- Whether the first character that is not case-ignorable is cased. -/
def startsCased (s : List Char) : Bool :=
  match s.dropWhile isCaseIgnorable with
  | [] => false
  | c :: _ => isCased c

/-- The rest of a text in lower case, given what stands before it in reverse. -/
def lowercaseFrom (before : List Char) : List Char → List Char
  | [] => []
  | c :: after =>
    let form :=
      if c = 'Σ' then
        if startsCased before && !startsCased after then ['ς'] else ['σ']
      else lowerChar c
    form ++ lowercaseFrom (c :: before) after

def lowercase (s : List Char) : List Char :=
  lowercaseFrom [] s

end HostInventory.Text
