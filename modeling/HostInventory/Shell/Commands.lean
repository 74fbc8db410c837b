import HostInventory.Shell.State

/-!
# What a shell does itself

Sending signals, changing the working directory, reading variables and opening files are done in
the shell, since they change it.
-/

namespace HostInventory.Shell

/-- Whether a signal ends a process or halts it. -/
def isDeadly (signal : Nat) : Bool :=
  !([0, 17, 18, 23, 28].contains signal)

/-- Whether a signal only halts a process. -/
def isHalting (signal : Nat) : Bool :=
  [19, 20, 21, 22].contains signal

def signalNames : List (String × Nat) := [
  ("HUP", 1), ("INT", 2), ("QUIT", 3), ("ILL", 4), ("TRAP", 5), ("ABRT", 6), ("BUS", 7),
  ("FPE", 8), ("KILL", 9), ("USR1", 10), ("SEGV", 11), ("USR2", 12), ("PIPE", 13), ("ALRM", 14),
  ("TERM", 15), ("CHLD", 17), ("CONT", 18), ("STOP", 19), ("TSTP", 20), ("TTIN", 21),
  ("TTOU", 22), ("URG", 23), ("XCPU", 24), ("XFSZ", 25), ("VTALRM", 26), ("PROF", 27),
  ("WINCH", 28), ("IO", 29), ("PWR", 30), ("SYS", 31)]

/-- The signal that a word names by its number or its name. -/
def signalOf? (word : String) : Option Nat :=
  match Decimal.ofText? word with
  | some n => some n
  | none =>
    let name := if word.startsWith "SIG" then String.ofList (word.toList.drop 3) else word
    signalNames.lookup name

/-- The signal and the process numbers that the words of `kill` give. -/
def killWords? : List String → Option (Nat × List String)
  | "-s" :: signal :: numbers => (signalOf? signal).map (·, numbers)
  | word :: numbers =>
    match word.toList with
    | '-' :: signal => (signalOf? (String.ofList signal)).map (·, numbers)
    | _ => some (15, word :: numbers)
  | [] => none

def killUsage : String :=
  "kill: Usage: kill [-s sigspec | -signum | -sigspec] [pid | job]... or\nkill -l [exitstatus]"

/-- Receives a signal. What a trap asks for instead is left to the caller. -/
def receive (signal : Nat) : Act (Option String) := do
  let s ← get
  match if signal = 9 then none else s.traps.lookup signal with
  | some command => return some command
  | none =>
    if isHalting signal then throw (.endless [])
    if isDeadly signal then throw (.killed signal)
    return none

/-- Sends a signal to processes, and gives the commands that traps ask for. -/
def kill (args : List String) : Act (List String) := do
  match killWords? args with
  | none =>
    complain killUsage 2
    return []
  | some (signal, numbers) =>
    let mut commands := []
    for number in numbers do
      if Decimal.ofText? number ≠ some (← get).number then complain "kill: No such process" 1
      else
        modify fun s => { s with status := 0 }
        commands := commands ++ (← receive signal).toList
    return commands

/-- Sets or takes away what is run when signals come. -/
def trap (args : List String) : Act Unit := do
  let signalOf (word : String) := if word = "EXIT" then some 0 else signalOf? word
  let (command, words) :=
    match args with
    | [] => (none, [])
    | first :: words =>
      if first = "-" then (none, words)
      else if (signalOf first).isSome then (none, args)
      else (some first, words)
  modify fun s => { s with status := 0 }
  for word in words do
    match signalOf word with
    | none => complain ("trap: " ++ word ++ ": bad trap") 1
    | some signal =>
      modify fun s => { s with
        traps := (command.map (signal, ·)).toList ++ s.traps.filter (·.1 != signal) }

/-- Ends the shell with the status that a word asks for, the last one without a word. -/
def exit (word : Option String) : Act Unit := do
  match word with
  | none => throw (.exits (← get).status)
  | some word =>
    match Decimal.ofText? word with
    | some n => throw (.exits (UInt8.ofNat n))
    | none =>
      complain ("exit: Illegal number: " ++ word) 2
      throw (.exits 2)

def setOptions (args : List String) : Act Unit := do
  modify fun s => { s with status := 0 }
  match args with
  | ["-e"] => modify fun s => { s with endsOnFailure := true }
  | ["+e"] => modify fun s => { s with endsOnFailure := false }
  | "--" :: parameters => modify fun s => { s with parameters }
  | parameters => modify fun s => { s with parameters }

/-- Takes over what a utility of the shell's own did. It cannot write on a closed stream. -/
def absorbOwn (name : String) (w : Utility.Work) : Act Unit := do
  let writes := w.life.written.any fun (stream, octets) => stream == .standard && !octets.isEmpty
  let isClosed := ((← get).sinks.lookup 1).isNone
  absorb w
  if writes && isClosed then complain (name ++ ": " ++ name ++ ": I/O error") 1

def changeDirectory (path : String) : Act Unit := do
  let s ← get
  if s.tree.leadsToDirectory path then
    match s.tree.locate path with
    | .ok place => set { s with tree := { s.tree with cwd := place }, status := 0 }
    | .error _ => complain ("cd: can't cd to " ++ path) 2
  else complain ("cd: can't cd to " ++ path) 2

def readVariable (name : String) : Act Unit := do
  match (← get).input.takeLines? 1 with
  | none => throw (.endless [])
  | some (line, rest) =>
    let text := Text.trim ((Utf8.lossyChars line).filter (· != '\n'))
    modify fun s => { s.setVariable name (String.ofList text) with
      input := rest, status := if line.isEmpty then 1 else 0 }

def openFailure (mode : OpenMode) (path : String) (e : SystemError) : String :=
  let reason :=
    if e = .noEntry then (if mode = .reads then "No such file" else "Directory nonexistent")
    else Utility.failureText e
  (if mode = .reads then "cannot open " else "cannot create ") ++ path ++ ": " ++ reason

/-- Opens a file for a stream; says whether that went well. -/
def openFile (stream : Nat) (mode : OpenMode) (path : String) : Act Bool := do
  let s ← get
  let failed (e : SystemError) : Act Bool := do
    complain (openFailure mode path e) 2
    return false
  match mode with
  | .reads =>
    match Source.ofPath s.tree path with
    | .error e => failed e
    | .ok source =>
      if stream = 0 then set { s with input := source }
      return true
  | mode =>
    if path = "/dev/null" then
      set (s.direct stream (some .nowhere))
      return true
    let opened := do
      let old := if mode = OpenMode.appends then (s.tree.read path).toOption.getD [] else []
      let tree ← s.tree.write path old
      return (tree, ← tree.locate path)
    match opened with
    | .error e => failed e
    | .ok (tree, place) =>
      set ({ s with tree }.direct stream (some (.file place)))
      return true

/-- Lets a stream lead where another one leads; says whether that went well. -/
def copyStream (stream : Nat) (other : String) : Act Bool := do
  let s ← get
  if other = "-" then
    if stream = 0 then set { s with input := .nothing } else set (s.direct stream none)
    return true
  match (Decimal.ofText? other).map fun n => (n, s.sinks.lookup n) with
  | some (_, some sink) =>
    set (s.direct stream (some sink))
    return true
  | some (0, none) => return true
  | _ =>
    complain (other ++ ": Bad file descriptor") 2
    return false

end HostInventory.Shell
