import HostInventory.Shell.Arithmetic
import HostInventory.Shell.Parser
import HostInventory.Utility.Table

/-!
# What a running shell holds

A shell holds variables, parameters and the streams of the commands that it runs. Everything that
is written goes into one record in the order of writing, whatever the destination, so that streams
which end up in the same place keep their order.
-/

namespace HostInventory.Shell

inductive Sink where
  /-- Out of the process. -/
  | outside (stream : OutStream)
  /-- To a reader within the shell, so many readers deep. -/
  | reader (depth : Nat)
  | file (place : Place)
  /-- Nowhere: what is written is lost. -/
  | nowhere
deriving Repr, DecidableEq

structure State where
  tree : FileTree
  searchPath : List String
  attachment : Attachment
  /-- The number of the process. -/
  number : Nat
  /-- The name it goes by. -/
  name : String
  parameters : List String
  bindings : List (String × String)
  /-- The status of the last command. -/
  status : UInt8
  /-- The line of the running command. -/
  line : Nat
  /-- Whether a command that fails ends the shell, and whether one that fails now is only asked. -/
  endsOnFailure : Bool
  asked : Bool
  /-- What is run when a signal comes; number 0 stands for the end of the shell. -/
  traps : List (Nat × String)
  input : Source
  sinks : List (Nat × Sink)
  /-- How many readers deep the shell is. -/
  depth : Nat
  written : List (Sink × Octets)
  nanos : Nat
deriving Repr

/-- Why a shell does not go on with the next command. -/
inductive Stop where
  /-- It ends with a status. -/
  | exits (status : UInt8)
  /-- A signal ends it, and every shell that it started within itself. -/
  | killed (signal : Nat)
  /-- A command never ends, and writes octets over and over. -/
  | endless (refrain : Octets)
deriving Repr, DecidableEq

/-- What a shell does: it changes its state, and may stop. -/
abbrev Act := ExceptT Stop (StateM State)

namespace State

def fresh (tree : FileTree) (searchPath : List String) (attachment : Attachment) : State where
  tree
  searchPath
  attachment
  number := 100
  name := ""
  parameters := []
  bindings := [("PATH", ":".intercalate searchPath)]
  status := 0
  line := 1
  endsOnFailure := false
  asked := false
  traps := []
  input := match attachment with
    | .pipes => .nothing
    | .terminal _ _ => .terminal
  sinks := [(1, .outside .standard), (2, .outside .errors)]
  depth := 0
  written := []
  nanos := 0

/-- Which of its three streams are a terminal. -/
def terminals (s : State) : List Nat :=
  match s.attachment with
  | .pipes => []
  | .terminal _ _ =>
    (if s.input = .terminal then [0] else []) ++ (s.sinks.filter fun
      | (_, .outside _) => true
      | _ => false).map (·.1)

def call (s : State) (name : String) (args : List String) : Utility.Call where
  tree := s.tree
  name
  args
  input := s.input
  terminals := s.terminals
  rows := match s.attachment with
    | .pipes => 0
    | .terminal rows _ => rows
  columns := match s.attachment with
    | .pipes => 0
    | .terminal _ columns => columns

/-- What was written for the reader at a depth. -/
def readAt (s : State) (depth : Nat) : Octets :=
  (s.written.filter (·.1 == .reader depth)).flatMap (·.2)

def outside (s : State) : List (OutStream × Octets) :=
  s.written.filterMap fun
    | (.outside stream, octets) => some (stream, octets)
    | _ => none

def value? (s : State) (name : String) : Option String :=
  match name with
  | "#" => some (Decimal.text s.parameters.length)
  | "?" => some (Decimal.text s.status.toNat)
  | "$" => some (Decimal.text s.number)
  | "0" => some s.name
  | "@" => some (" ".intercalate s.parameters)
  | "*" => some (" ".intercalate s.parameters)
  | "-" => some ""
  | name =>
    match Decimal.ofText? name with
    | some n => s.parameters[n - 1]?
    | none => s.bindings.lookup name

def setVariable (s : State) (name value : String) : State :=
  { s with bindings := (name, value) :: s.bindings.filter (·.1 != name) }

/-- Lets a stream lead somewhere else, or nowhere that is open. -/
def direct (s : State) (stream : Nat) (sink : Option Sink) : State :=
  { s with sinks := sink.toList.map (stream, ·) ++ s.sinks.filter (·.1 != stream) }

end State

/-! ## Writing -/

/-- Writes on a stream; a closed one swallows everything. -/
def emit (stream : Nat) (octets : Octets) : Act Unit :=
  modify fun s =>
    match s.sinks.lookup stream with
    | some (.file place) => { s with tree := s.tree.append place octets }
    | some .nowhere => s
    | some sink => if octets.isEmpty then s else { s with written := s.written ++ [(sink, octets)] }
    | none => s

/-- Complains about the running command, and gives it a status. -/
def complain (complaint : String) (status : UInt8) : Act Unit := do
  let s ← get
  emit 2 (Utf8.encode (s.name ++ ": " ++ Decimal.text s.line ++ ": " ++ complaint ++ "\n"))
  modify fun s => { s with status }

/-- What a shell that ended leaves as the status of a command. -/
def killedStatus (signal : Nat) : UInt8 :=
  UInt8.ofNat (128 + signal)

/-- Takes over what a utility did. -/
def absorb (w : Utility.Work) : Act Unit := do
  for (stream, octets) in w.life.written do
    emit (if stream = .standard then 1 else 2) octets
  modify fun s => { s with input := w.rest, nanos := s.nanos + w.life.nanos }
  match w.life.fate with
  | .ends (.exited status) => modify fun s => { s with status }
  | .ends (.killed signal) => modify fun s => { s with status := killedStatus signal }
  | .endless refrain =>
    match (← get).sinks.lookup 1 with
    | some (.file _) => throw (.endless [])
    | some .nowhere => throw (.endless [])
    | _ => throw (.endless refrain)

/-! ## Shells within the shell -/

def attempt (act : Act Unit) : Act (Except Stop Unit) :=
  ExceptT.mk (Except.ok <$> act.run)

/-- Does something in a copy of the shell, which keeps nothing but what was done to the world. -/
def apart (act : Act Unit) : Act Unit := do
  let before ← get
  let result ← attempt act
  modify fun s => { before with
    tree := { s.tree with cwd := before.tree.cwd }, input := s.input, written := s.written,
    nanos := s.nanos, status := s.status }
  match result with
  | .ok () => return
  | .error (.exits status) => modify fun s => { s with status }
  | .error stop => throw stop

/-- Does something in a copy of the shell whose standard stream a reader takes; the refrain is what
the reader finds behind everything else if the writer never ends. -/
def readFrom (act : Act Unit) : Act (Octets × Option Octets) := do
  let before ← get
  let depth := before.depth + 1
  modify fun s => { s with depth }.direct 1 (some (.reader depth))
  let result ← attempt (apart act)
  let octets := (← get).readAt depth
  modify fun s => { s with
    depth := before.depth, sinks := before.sinks,
    written := s.written.filter (·.1 != .reader depth) }
  match result with
  | .ok () => return (octets, none)
  | .error (.endless refrain) => return (octets, some refrain)
  | .error stop => throw stop

/-! ## Fields -/

/-- A part of the words that a word stands for. -/
inductive Fragment where
  /-- Characters that stay together. -/
  | solid (chars : List Char)
  /-- Characters of which blanks separate fields. -/
  | loose (chars : List Char)
  /-- The end of a field. -/
  | cut
deriving Repr, DecidableEq

/-- The fields that fragments form, one of them begun already. -/
def fieldsFrom : Option (List Char) → List Fragment → List (List Char)
  | begun, [] => begun.toList
  | begun, .solid chars :: rest => fieldsFrom (some (begun.getD [] ++ chars)) rest
  | begun, .cut :: rest => begun.getD [] :: fieldsFrom none rest
  | begun, .loose chars :: rest =>
    match Text.words chars with
    | [] => if chars.isEmpty then fieldsFrom begun rest else begun.toList ++ fieldsFrom none rest
    | first :: more =>
      let startsApart := (chars.head?.map Text.isBlank).getD false
      let endsApart := (chars.getLast?.map Text.isBlank).getD false
      let (finished, all) :=
        match begun, startsApart with
        | some open', true => ([open'], first :: more)
        | some open', false => ([], (open' ++ first) :: more)
        | none, _ => ([], first :: more)
      if endsApart then finished ++ all ++ fieldsFrom none rest
      else finished ++ all.dropLast ++ fieldsFrom all.getLast? rest

def fields (fragments : List Fragment) : List String :=
  (fieldsFrom none fragments).map String.ofList

def joined (fragments : List Fragment) : String :=
  String.ofList (fragments.flatMap fun
    | .solid chars => chars
    | .loose chars => chars
    | .cut => [' '])

def fragment (quoted : Bool) (value : String) : Fragment :=
  if quoted then .solid value.toList else .loose value.toList

/-- The fragments of all parameters, each a field of its own. -/
def parameterFragments (quoted : Bool) (parameters : List String) : List Fragment :=
  (parameters.map (fragment quoted)).intersperse .cut

end HostInventory.Shell
