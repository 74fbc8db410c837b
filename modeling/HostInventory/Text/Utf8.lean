/-!
# Reading octets as UTF-8

Files and programs deliver octets; everything else in this library works on characters. Two
readings are offered. `Utf8.lossy` never fails: each longest octet sequence that starts a
character but does not finish it, and each octet that cannot start one, becomes one U+FFFD.
`Utf8.decode?` accepts exactly the octets that `Utf8.encode` writes.

The reader is a machine that takes one octet at a time (`Utf8.feed`) and remembers at most one
unfinished character. After a line feed it remembers nothing, which is why a damaged line never
reaches into the next one.
-/

namespace HostInventory

/-- Octets as a file or a program delivers them. -/
abbrev Octets := List UInt8

namespace Utf8

/-- What stands for octets that are no character. -/
def replacement : Char := '\uFFFD'

/-- A character whose first octets have been read: how many are owed, the bits read so far, and
the bounds on the next octet. -/
structure Unfinished where
  owed : Nat
  bits : Nat
  low : Nat
  high : Nat
deriving Repr, DecidableEq

/-- The character that an octet starts, for octets that start one of more than one octet. The
bounds keep out overlong forms, surrogates and values above U+10FFFF. -/
def open? (octet : Nat) : Option Unfinished :=
  if octet < 0xC2 then none
  else if octet < 0xE0 then some ⟨1, octet - 0xC0, 0x80, 0xBF⟩
  else if octet = 0xE0 then some ⟨2, 0, 0xA0, 0xBF⟩
  else if octet = 0xED then some ⟨2, 0xD, 0x80, 0x9F⟩
  else if octet < 0xF0 then some ⟨2, octet - 0xE0, 0x80, 0xBF⟩
  else if octet = 0xF0 then some ⟨3, 0, 0x90, 0xBF⟩
  else if octet < 0xF4 then some ⟨3, octet - 0xF0, 0x80, 0xBF⟩
  else if octet = 0xF4 then some ⟨3, 4, 0x80, 0x8F⟩
  else none

/-- One octet read between two characters. -/
def start (octet : Nat) : List Char × Option Unfinished :=
  if octet < 0x80 then ([Char.ofNat octet], none)
  else
    match open? octet with
    | some u => ([], some u)
    | none => ([replacement], none)

/-- One octet: the characters that it completes, and the character that it leaves unfinished. -/
def feed : Option Unfinished → Nat → List Char × Option Unfinished
  | none, octet => start octet
  | some u, octet =>
    if u.low ≤ octet ∧ octet ≤ u.high then
      let bits := u.bits * 64 + (octet - 0x80)
      if u.owed ≤ 1 then ([Char.ofNat bits], none)
      else ([], some ⟨u.owed - 1, bits, 0x80, 0xBF⟩)
    else
      let (chars, rest) := start octet
      (replacement :: chars, rest)

/-- All characters of the octets, the machine standing at a given point. -/
def readFrom : Option Unfinished → Octets → List Char
  | none, [] => []
  | some _, [] => [replacement]
  | u, octet :: rest =>
    let (chars, u') := feed u octet.toNat
    chars ++ readFrom u' rest

/-- The characters of the octets, damage replaced. -/
def lossyChars (octets : Octets) : List Char :=
  readFrom none octets

/-- The text of the octets, damage replaced. -/
def lossy (octets : Octets) : String :=
  String.ofList (lossyChars octets)

def encode (text : String) : Octets :=
  text.toList.flatMap String.utf8EncodeChar

/-- The text that the octets encode, if they encode one. -/
def decode? (octets : Octets) : Option String :=
  let text := lossy octets
  if encode text = octets then some text else none

/-! ## What a line feed leaves behind -/

theorem feed_lineFeed (u : Option Unfinished)
    (h : ∀ v, u = some v → 0x80 ≤ v.low) : (feed u 0x0A).2 = none := by
  cases u with
  | none => rfl
  | some v =>
    have hv := h v rfl
    simp only [feed]
    rw [if_neg (by omega)]
    rfl

end Utf8

end HostInventory
