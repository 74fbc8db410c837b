import HostInventory.Duration
import HostInventory.Text.Utf8

/-!
# Commands

A command names a program and its arguments and may bound the time it runs; running it to the end
leaves what it wrote on its two streams and how long it took.
-/

namespace HostInventory

structure Command where
  program : String
  args : List String
  timeout : Option Duration
deriving Repr, DecidableEq, Inhabited

namespace Command

/-- A program without arguments and without a bound on its time. -/
def ofProgram (program : String) : Command :=
  ⟨program, [], none⟩

def withArgs (c : Command) (args : List String) : Command :=
  { c with args := c.args ++ args }

def withTimeout (c : Command) (timeout : Duration) : Command :=
  { c with timeout := some timeout }

/-- The command line, words separated by spaces and not quoted. -/
def text (c : Command) : String :=
  " ".intercalate (c.program :: c.args)

end Command

structure CommandOutput where
  stdout : Octets
  stderr : Octets
  duration : Duration
deriving Repr, DecidableEq, Inhabited

namespace CommandOutput

/-- The JSON form of octets: an array of numbers. -/
def octetsJson (octets : Octets) : Json :=
  .array (octets.map fun octet => .nat octet.toNat)

def octetOfJson? (j : Json) : Option UInt8 :=
  (j.toNatBelow? 256).map UInt8.ofNat

def toJson (o : CommandOutput) : Json :=
  .record [("stdout", octetsJson o.stdout), ("stderr", octetsJson o.stderr),
    ("duration", o.duration.toJson)]

/-- Reads an output; all fields have to be there. -/
def ofJson? (j : Json) : Option CommandOutput := do
  match ← j.fields? ["stdout", "stderr", "duration"] with
  | [some stdout, some stderr, some duration] =>
    return ⟨← stdout.toListOf? octetOfJson?, ← stderr.toListOf? octetOfJson?,
      ← Duration.ofJson? duration⟩
  | _ => none

end CommandOutput

end HostInventory
