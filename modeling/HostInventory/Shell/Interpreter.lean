import HostInventory.Shell.Commands

/-!
# Running shell programs

Commands are run one after the other until the program ends or something stops the shell. Loops,
programs that run each other, and nesting are bounded by one count of steps; what goes on beyond
the count is taken to go on for ever.
-/

namespace HostInventory.Shell

/-- What a signal that ended a command is called. -/
def deathNotice (signal : Nat) : String :=
  match signal with
  | 1 => "Hangup"
  | 3 => "Quit"
  | 4 => "Illegal instruction"
  | 6 => "Aborted"
  | 8 => "Floating point exception"
  | 9 => "Killed"
  | 11 => "Segmentation fault"
  | 14 => "Alarm clock"
  | 15 => "Terminated"
  | _ => ""

/-- Does the work of another process, which has a number of its own. -/
def asProcess (act : Act Unit) : Act Unit := do
  let before ← get
  modify fun s => { s with number := s.number + 1 }
  match ← attempt (apart act) with
  | .ok () => modify fun s => { s with number := before.number }
  | .error (.killed signal) =>
    modify fun s => { s with number := before.number, status := killedStatus signal }
    let notice := deathNotice signal
    if !notice.isEmpty then emit 2 (Utf8.encode (notice ++ "\n"))
  | .error stop => throw stop

/-- Does something whose failure is an answer and ends nothing. -/
def ask (act : Act Unit) : Act Unit := do
  let before ← get
  modify fun s => { s with asked := true }
  act
  modify fun s => { s with asked := before.asked }

/-- Ends the shell if it is to end on a failure and the last command failed. -/
def endOnFailure : Act Unit := do
  let s ← get
  if s.endsOnFailure && !s.asked && s.status != 0 then throw (.exits s.status)

def dropLineEnds (octets : Octets) : Octets :=
  (octets.reverse.dropWhile (· == 10)).reverse

mutual

def expand : Nat → Word → Act (List Fragment)
  | 0, _ => throw (.endless [])
  | _, [] => return []
  | n + 1, piece :: pieces => do
    let first ← expandPiece n piece
    return first ++ (← expand n pieces)

/-- The fragments that a piece of a word stands for. -/
def expandPiece : Nat → Piece → Act (List Fragment)
  | 0, _ => throw (.endless [])
  | _ + 1, .text _ chars => return [.solid chars]
  | n + 1, .variable quoted name orEmpty alternative => do
    let s ← get
    let value := s.value? name
    let missing := value.isNone || (orEmpty && value == some "")
    match alternative, missing with
    | none, _ =>
      if name = "@" || (name = "*" && !quoted) then
        return parameterFragments quoted s.parameters
      return [fragment quoted (value.getD "")]
    | some (.useInstead, other), true => expand n other
    | some (.assign, other), true =>
      let text := joined (← expand n other)
      modify (·.setVariable name text)
      return [fragment quoted text]
    | some (.whenSet, _), true => return []
    | some (.whenSet, other), false => expand n other
    | some _, false => return [fragment quoted (value.getD "")]
  | _ + 1, .length _ name => do
    return [.solid (Decimal.digits (((← get).value? name).getD "").length)]
  | n + 1, .output quoted program => do
    match ← readFrom (runNodes n program) with
    | (octets, none) => return [fragment quoted (Utf8.lossy (dropLineEnds octets))]
    | (_, some _) => throw (.endless [])
  | n + 1, .sum quoted expression => do
    let text := joined (← expand n expression)
    let s ← get
    let valueOf (name : String) : Int := ((s.value? name).bind String.toInt?).getD 0
    match Arithmetic.evaluate? valueOf text with
    | some value => return [fragment quoted (Decimal.signedText value)]
    | none =>
      complain ("arithmetic expression: expecting primary: \"" ++ text ++ "\"") 2
      throw (.exits 2)

/-- Applies redirections; says whether all went well. -/
def redirect : Nat → List Redirection → Act Bool
  | 0, _ => throw (.endless [])
  | _, [] => return true
  | n + 1, redirection :: more => do
    let opened ←
      match redirection with
      | .file stream mode path => do openFile stream mode (joined (← expand n path))
      | .copy stream other => do copyStream stream (joined (← expand n other))
    if opened then redirect n more else return false

/-- Does something with streams redirected, and directs them back. -/
def redirected : Nat → List Redirection → Act Unit → Act Unit
  | 0, _, _ => throw (.endless [])
  | _, [], act => act
  | n + 1, redirections, act => do
    let before ← get
    if ← redirect n redirections then
      let result ← attempt act
      modify fun s => { s with sinks := before.sinks, input := before.input }
      match result with
      | .ok () => return
      | .error stop => throw stop
    else modify fun s => { s with sinks := before.sinks, input := before.input }

def setVariables : Nat → List (String × Word) → Act Unit
  | 0, _ => throw (.endless [])
  | _, [] => return
  | n + 1, (name, word) :: more => do
    let value := joined (← expand n word)
    modify (·.setVariable name value)
    setVariables n more

def runNodes : Nat → List Node → Act Unit
  | 0, _ => throw (.endless [])
  | _, [] => return
  | n + 1, node :: more => do
    runNode n node
    runNodes n more

def runNode : Nat → Node → Act Unit
  | 0, _ => throw (.endless [])
  | n + 1, .simple line bindings words redirections => do
    modify fun s => { s with line }
    match ← expandWords n words with
    | [] =>
      modify fun s => { s with status := 0 }
      setVariables n bindings
      redirected n redirections (return)
    | "exec" :: [] =>
      modify fun s => { s with status := 0 }
      if !(← redirect n redirections) then throw (.exits 2)
    | "exec" :: name :: args =>
      redirected n redirections (runProgram n "exec: " name args)
      throw (.exits (← get).status)
    | name :: args =>
      let before ← get
      setVariables n bindings
      redirected n redirections (runWords n name args)
      if !bindings.isEmpty then modify fun s => { s with bindings := before.bindings }
      endOnFailure
  | n + 1, .pipeline negated stages => do
    if negated then
      ask (runStages n stages)
      modify fun s => { s with status := if s.status = 0 then 1 else 0 }
    else do
      runStages n stages
      endOnFailure
  | n + 1, .both first second => do
    ask (runNode n first)
    if (← get).status = 0 then runNode n second
  | n + 1, .either first second => do
    ask (runNode n first)
    if (← get).status ≠ 0 then runNode n second
  | n + 1, .background body => do
    apart (runNode n body)
    modify fun s => { s with status := 0 }
  | n + 1, .block true body redirections => do
    redirected n redirections (apart (runNodes n body))
    endOnFailure
  | n + 1, .block false body redirections =>
    redirected n redirections (runNodes n body)
  | n + 1, .choice branches otherwise redirections =>
    redirected n redirections (runChoice n branches otherwise)
  | n + 1, .loop wanted condition body redirections =>
    redirected n redirections (runLoop n wanted condition body 0)
  | n + 1, .each name words body redirections => do
    let values ←
      match words with
      | some words => expandWords n words
      | none => pure (← get).parameters
    redirected n redirections do
      modify fun s => { s with status := 0 }
      for value in values do
        modify (·.setVariable name value)
        runNodes n body

def expandWords : Nat → List Word → Act (List String)
  | 0, _ => throw (.endless [])
  | _, [] => return []
  | n + 1, word :: words => do
    let first ← expand n word
    return fields first ++ (← expandWords n words)

/-- Runs the first branch whose condition is met. -/
def runChoice : Nat → List (List Node × List Node) → List Node → Act Unit
  | 0, _, _ => throw (.endless [])
  | n + 1, [], otherwise => do
    modify fun s => { s with status := 0 }
    runNodes n otherwise
  | n + 1, (condition, body) :: more, otherwise => do
    ask (runNodes n condition)
    if (← get).status = 0 then runNodes n body else runChoice n more otherwise

/-- Runs a body as long as a condition answers as wanted; the status is that of the last body. -/
def runLoop : Nat → Bool → List Node → List Node → UInt8 → Act Unit
  | 0, _, _, _, _ => throw (.endless [])
  | n + 1, wanted, condition, body, status => do
    ask (runNodes n condition)
    if ((← get).status == 0) == wanted then
      runNodes n body
      runLoop n wanted condition body (← get).status
    else modify fun s => { s with status }

/-- Runs the stages of a pipeline, each reading what the one before it wrote. -/
def runStages : Nat → List Node → Act Unit
  | 0, _ => throw (.endless [])
  | _, [] => return
  | n + 1, [stage] => apart (runNode n stage)
  | n + 1, stage :: more => do
    let before ← get
    let (octets, refrain) ← readFrom (runNode n stage)
    let left := (← get).input
    modify fun s => { s with input := .octets octets (refrain.getD []) }
    runStages n more
    modify fun s => { s with input := if more.length = 1 then left else before.input }
    if refrain = some [] then throw (.endless [])

/-- Runs a command by its name: one of the shell's own, or a program. -/
def runWords : Nat → String → List String → Act Unit
  | 0, _, _ => throw (.endless [])
  | n + 1, name, args => do
    let s ← get
    match name with
    | "exit" => exit args.head?
    | "trap" => trap args
    | "kill" =>
      for command in ← kill args do
        let status := (← get).status
        runText n (command.toList.count '\n') command.toList
        modify fun s => { s with status }
    | "cd" => changeDirectory (args.head?.getD "/")
    | "read" => readVariable (args.getLast?.getD "REPLY")
    | "shift" =>
      set { s with
        parameters := s.parameters.drop ((args.head?.bind Decimal.ofText?).getD 1), status := 0 }
    | "set" => setOptions args
    | "unset" => set { s with bindings := s.bindings.filter (!args.contains ·.1), status := 0 }
    | "export" =>
      modify fun s => { s with status := 0 }
      for arg in args do
        match Reader.assigned? arg.toList with
        | some (key, value) => modify (·.setVariable key (String.ofList value))
        | none => pure ()
    | "wait" => set { s with status := 0 }
    | "eval" =>
      let text := (" ".intercalate args).toList
      modify fun s => { s with status := 0 }
      runText n (text.count '\n') text
    | name =>
      match Utility.builtIn? name with
      | some utility =>
        let fullName := s.name ++ ": " ++ Decimal.text s.line ++ ": " ++ name
        absorbOwn name (utility (s.call fullName args))
      | none => runProgram n "" name args

/-- Runs a program in a process of its own; complaints begin as given. -/
def runProgram : Nat → String → String → List String → Act Unit
  | 0, _, _, _ => throw (.endless [])
  | n + 1, start, name, args => do
    let s ← get
    match s.tree.findProgram s.searchPath name args with
    | .error e =>
      if e = FileTree.notRunnable then asProcess (runFound n "sh" (name :: name :: args))
      else if e.kind = .notFound then complain (start ++ name ++ ": not found") 127
      else complain (start ++ name ++ ": " ++ Utility.failureText e) 126
    | .ok (program, words) => asProcess (runFound n program words)

/-- Runs a program of the machine with its words, the first of which is its name. -/
def runFound : Nat → String → List String → Act Unit
  | 0, _, _ => throw (.endless [])
  | n + 1, program, words => do
    let s ← get
    let name := words.head?.getD program
    if Utility.shellNames.contains program then
      set { s with
        name, status := 0, line := 0, parameters := [], traps := [], endsOnFailure := false,
        asked := false }
      match ← attempt (runShell n words.tail) with
      | .ok () => runEnd n
      | .error (.exits status) =>
        modify fun s => { s with status }
        runEnd n
        throw (.exits status)
      | .error stop => throw stop
    else
      match Utility.table.lookup program with
      | some utility => absorb (utility (s.call name words.tail))
      | none => throw (.exits 127)

/-- Runs what the words of a shell give: a program among them, one in a file, or what it reads. -/
def runShell : Nat → List String → Act Unit
  | 0, _ => throw (.endless [])
  | n + 1, words => do
    let s ← get
    match words with
    | [] =>
      match s.input.all? with
      | none => throw (.endless [])
      | some octets =>
        let text := Utf8.lossyChars octets
        runText n (text.count '\n') text
    | "-e" :: words =>
      set { s with endsOnFailure := true }
      runShell n words
    | "-ec" :: words =>
      set { s with endsOnFailure := true }
      runShell n ("-c" :: words)
    | ["-c"] =>
      complain "-c requires an argument" 2
      throw (.exits 2)
    | "-c" :: text :: words =>
      set { s with name := words.head?.getD s.name, parameters := words.tail }
      runText n (text.toList.count '\n') text.toList
    | path :: parameters =>
      match s.tree.read path with
      | .error e =>
        complain (openFailure .reads path e) 2
        throw (.exits 2)
      | .ok octets =>
        let text := Utf8.lossyChars octets
        set { s with name := path, parameters }
        runText n (text.count '\n') text

/-- Runs what is to be run when the shell ends. -/
def runEnd : Nat → Act Unit
  | 0 => throw (.endless [])
  | n + 1 => do
    let s ← get
    match s.traps.lookup 0 with
    | none => return
    | some command =>
      runText n (command.toList.count '\n') command.toList
      modify fun after => { after with status := s.status }

def runText : Nat → Nat → List Char → Act Unit
  | 0, _, _ => throw (.endless [])
  | n + 1, lineEnds, text => do
    match readLine lineEnds text with
    | .error e =>
      modify fun s => { s with line := e.line }
      complain ("Syntax error: " ++ e.text) 2
      throw (.exits 2)
    | .ok none => return
    | .ok (some (nodes, rest)) =>
      runNodes n nodes
      runText n lineEnds rest

end

/-- How many steps deep a program may go. -/
def maxSteps : Nat :=
  20000

/-- The life of a process that runs a program of the machine with its words. -/
def life (tree : FileTree) (searchPath : List String) (attachment : Attachment) (program : String)
    (words : List String) : Process :=
  let (result, s) := (runFound maxSteps program words).run.run
    (.fresh tree searchPath attachment)
  let fate :=
    match result with
    | .ok () => .ends (.exited s.status)
    | .error (.exits status) => .ends (.exited status)
    | .error (.killed signal) => .ends (.killed signal)
    | .error (.endless refrain) => .endless refrain
  ⟨s.outside, s.nanos, fate⟩

end HostInventory.Shell
