import HostInventory.Agent.Basic
import HostInventory.Config.Load
import HostInventory.FileTree.Replacement
import HostInventory.Log.Writer
import Std.Time.DateTime.Timestamp

/-!
# The program

The agent on a real machine: files, clock, log and environment are those of the process. Nothing
here starts other programs, so every command counts as a missing one, which the state file then
shows among the failures; the packages in the status database are found without any command.
-/

namespace HostInventory.Host

/-- What the agent runs in: the process, with a log that is set up. -/
abbrev HostM := ReaderT LogWriter IO

/-- A failure of the process as one of the operating system. -/
def systemError (e : IO.Error) : SystemError :=
  match e with
  | .alreadyExists _ n _ => .number n.toNat
  | .otherError n _ => .number n.toNat
  | .resourceBusy n _ => .number n.toNat
  | .resourceVanished n _ => .number n.toNat
  | .unsupportedOperation n _ => .number n.toNat
  | .hardwareFault n _ => .number n.toNat
  | .unsatisfiedConstraints n _ => .number n.toNat
  | .illegalOperation n _ => .number n.toNat
  | .protocolError n _ => .number n.toNat
  | .timeExpired n _ => .number n.toNat
  | .interrupted _ n _ => .number n.toNat
  | .noFileOrDirectory _ n _ => .number n.toNat
  | .invalidArgument _ n _ => .number n.toNat
  | .permissionDenied _ n _ => .number n.toNat
  | .resourceExhausted _ n _ => .number n.toNat
  | .inappropriateType _ n _ => .number n.toNat
  | .noSuchThing _ n _ => .number n.toNat
  | .unexpectedEof => .bare .unexpectedEof
  | .userError text => .described .other text

def trying {α : Type} (act : IO α) : IO (Except SystemError α) := do
  try
    return .ok (← act)
  catch e =>
    return .error (systemError e)

def octetsOf (bytes : ByteArray) : Octets :=
  bytes.toList

def reader : FileReader IO where
  readText path := do
    match ← trying (IO.FS.readBinFile path) with
    | .error e => return .error e
    | .ok bytes =>
      match Utf8.decode? (octetsOf bytes) with
      | some text => return .ok text
      | none => return .error .notText
  has path := do
    if Text.isBlankText path.toList then return false
    match ← trying (IO.FS.Handle.mk path .read) with
    | .ok _ => return true
    | .error e => return e != .noEntry && e != .notDirectory

def rights (mode : Nat) : IO.FileRight :=
  let part (shift : Nat) : IO.AccessRight :=
    ⟨mode >>> (shift + 2) &&& 1 == 1, mode >>> (shift + 1) &&& 1 == 1, mode >>> shift &&& 1 == 1⟩
  ⟨part 6, part 3, part 0⟩

/-- Makes the call of a stage, and goes where the answer leads; with the handle of the temporary
file. What a stage asks for beyond the means of the process is left out: the permission bits at the
creation, waiting for the disk after the octets have been handed over, and bits above the lowest
nine. -/
def advance (r : Replacement) : (stage : Replacement.Stage) → stage.result? = none →
    StateT (Option IO.FS.Handle) IO
      {next : Replacement.Stage // r.remaining next < r.remaining stage}
  | .naming tried, _ => do
    let number ← IO.rand 0 999999999
    let path := TempFile.pathIn r.directory r.pattern number
    let answer ← trying (IO.FS.Handle.mk path .writeNew)
    set answer.toOption
    -- only a tree tells the place
    return ⟨_, r.remaining_afterNaming_lt tried number (answer.map fun _ => ⟨path, []⟩)⟩
  | .writing temp [], _ => return ⟨.syncing temp, Nat.lt_add_one 5⟩
  | .writing temp (octet :: left), _ => do
    let answer ← trying ((← get).forM fun file => file.write ⟨(octet :: left).toArray⟩)
    return ⟨_, r.remaining_afterWritingAll_lt temp (List.cons_ne_nil octet left) answer⟩
  | .syncing temp, _ => do
    let answer ← trying ((← get).forM IO.FS.Handle.flush)
    return ⟨_, r.remaining_afterSyncing_lt temp answer⟩
  | .settingMode temp, _ => do
    set (none : Option IO.FS.Handle)
    let answer ← trying (IO.setAccessRights temp.path (rights r.mode))
    return ⟨_, r.remaining_afterSettingMode_lt temp answer⟩
  | .moving temp, _ => do
    let answer ← trying (IO.FS.rename temp.path r.path)
    return ⟨_, r.remaining_afterMoving_lt temp answer⟩
  | .removing temp cause, _ => do
    discard (trying (IO.FS.removeFile temp.path))
    return ⟨.returned (.error cause), Nat.lt_add_one 1⟩

def finish (r : Replacement) (stage : Replacement.Stage) :
    StateT (Option IO.FS.Handle) IO (Except FileError Unit) :=
  match h : stage.result? with
  | some result => return result
  | none => do
    let next ← advance r stage h
    finish r next.val
termination_by r.remaining stage
decreasing_by exact next.property

/-- Replaces files of the machine as a whole. -/
def writer : FileWriter IO where
  replace path content mode := (finish ⟨path, content, mode⟩ (.naming 0)).run' none

def now : IO Timestamp := do
  let t ← Std.Time.Timestamp.now
  return ⟨t.toNanosecondsSinceUnixEpoch.val.toNat⟩

instance : MonadClock HostM where
  now := now

instance : MonadLog HostM where
  report e := do
    match (← read).write? (← now).text "hostkeep" e with
    | some line => IO.println line
    | none => return

/-- Starts no program: every one counts as missing. -/
def missing : Runner HostM where
  run c := return .error (.notFound c.program)

/-- Where the environment of the process says the configuration is. -/
def environment : IO ConfigEnvironment := do
  let directory ←
    match ← IO.getEnv "XDG_CONFIG_HOME" with
    | some directory => pure (some directory)
    | none => pure ((← IO.getEnv "HOME").map (· ++ "/.config"))
  return ⟨← IO.getEnv "HOSTKEEP_CONFIG", directory⟩

/-- The loop until it stops, with a pause of an interval after each pass. -/
partial def loop (agent : Agent HostM) (buffer : Buffer) (l : AgentLoop) : HostM Unit := do
  let pause : HostM Unit :=
    IO.sleep (UInt32.ofNat (min (agent.interval.toNanos / 1000000) (Nat.pow 2 32 - 1)))
  let (buffer, l) ← agent.loopWithin (return false) pause 1000 buffer l
  if l.position ≠ .stopped ∧ l.position ≠ .failed then loop agent buffer l

def runAgent (c : Config) (once : Bool) : HostM UInt32 := do
  let files : FileReader HostM := ⟨fun path => reader.readText path, fun path => reader.has path⟩
  let target : FileWriter HostM := ⟨fun path content mode => writer.replace path content mode⟩
  match Agent.ofConfig c missing missing files target with
  | .error e =>
    IO.eprintln ("Error: " ++ e.message)
    return 1
  | .ok agent =>
    if once then
      match ← agent.runOnce agent.start with
      | (_, .ok ()) => return 0
      | (_, .error e) =>
        IO.eprintln ("Error: " ++ e.message)
        return 1
    else
      report agent.startedEvent
      loop agent .none (.start agent.start.queue)
      return 0

/-- Loads the configuration, sets the log up and runs the agent. -/
def run : IO UInt32 := do
  match ← Config.find reader (← environment) with
  | .error e =>
    IO.eprintln ("Error: " ++ e.fullMessage)
    return 1
  | .ok c =>
    match LogWriter.init none (← IO.getEnv "RUST_LOG") c.agent with
    | .error e =>
      IO.eprintln ("Error: " ++ e.message)
      return 1
    | .ok log =>
      let once := (← IO.getEnv "HOSTKEEP_ONCE") == some "1"
      (runAgent c once).run log

end HostInventory.Host

def main : IO UInt32 :=
  HostInventory.Host.run
