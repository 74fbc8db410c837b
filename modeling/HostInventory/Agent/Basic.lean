import HostInventory.Agent.Loop
import HostInventory.Agent.Pass
import HostInventory.Config.Basic
import HostInventory.Provider.Apt
import HostInventory.Provider.Dpkg
import HostInventory.Provider.Rpm
import HostInventory.Provider.Yum
import HostInventory.Scan.Status

/-!
# The agent

The agent brings collection passes to its task queue, once or in a loop until the signal to stop.
Stopping closes the queue, which waits for the pass that is being made; after that nothing is
collected any more.

A pass that fails is reported and does not stop the agent.
-/

namespace HostInventory

structure Agent (m : Type → Type) where
  collector : Collector m
  files : FileWriter m
  stateFile : String
  interval : Duration
  /-- Whether the buffer is given back after each pass. -/
  reclaims : Bool

namespace Agent

/-- What an agent remembers: its queue and the buffer. -/
structure Memory where
  queue : Queue
  buffer : Buffer
deriving Repr

section Configuration

variable {m : Type → Type} [Monad m] [MonadLog m]

def ofConfig (c : Config) (runner terminalRunner : Runner m) (reader : FileReader m)
    (files : FileWriter m) : Except InventoryError (Agent m) := do
  let inventory := c.inventory
  let timeout := inventory.commandTimeout
  let collector ← Collector.ofParts
    [Dpkg.provider reader runner timeout, Rpm.provider reader runner timeout]
    [Apt.provider reader runner timeout,
      Yum.provider reader runner terminalRunner ⟨inventory.yumSecurity, inventory.yumMinimal⟩
        timeout]
    (some ((StatusDatabase.scanner reader).extractor [.dpkg inventory.root]))
    inventory.mode
  return ⟨collector, files, inventory.stateFile, inventory.interval, c.tasker.reclaimMemory⟩

end Configuration

/-- The memory of an agent that has done nothing. -/
def start {m : Type → Type} (agent : Agent m) : Memory :=
  ⟨.fresh agent.reclaims, .none⟩

section

variable {m : Type → Type} [Monad m] [MonadLog m] [MonadClock m]

/-- What happens besides a step of the queue: a pass when a task starts, and the end of it. -/
def accompany (agent : Agent m) (memory : Memory) : Queue.Step → m Memory
  | .start => do
    let (buffer, result) ← agent.collector.pass agent.files agent.stateFile memory.buffer
    match result with
    | .ok () => pure ()
    | .error e => report ⟨.error, "inventory collection failed", [("error", .text e.message)]⟩
    return { memory with buffer }
  | .hook => return { memory with buffer := memory.buffer.release }
  | _ => return memory

/-- Steps until none can be made, at most so many. -/
def settleWithin (agent : Agent m) : Nat → Memory → m Memory
  | 0, memory => return memory
  | n + 1, memory =>
    match memory.queue.next? .completed with
    | none => return memory
    | some s =>
      match memory.queue.step? s with
      | none => return memory
      | some queue => do
        let memory ← agent.accompany { memory with queue } s
        settleWithin agent n memory

/-- Calls the queue and runs it until nothing can make progress. -/
def request (agent : Agent m) (memory : Memory) (r : Queue.Request) :
    m (Memory × Option Queue.Answer) := do
  let caller := memory.queue.calls.length
  let queue := (memory.queue.step? (.call r)).getD memory.queue
  let memory ← agent.settleWithin queue.enoughSteps { memory with queue }
  return (memory, memory.queue.answer? caller)

def schedule (agent : Agent m) (memory : Memory) : m (Memory × Except QueueError Unit) := do
  match ← agent.request memory (.enqueue collectionTask) with
  | (memory, some (.rejected e)) => return (memory, .error e)
  | (memory, _) => return (memory, .ok ())

def shutdown (agent : Agent m) (memory : Memory) : m Memory := do
  let (memory, _) ← agent.request memory .close
  report ⟨.info, "agent stopped", []⟩
  return memory

def runOnce (agent : Agent m) (memory : Memory) : m (Memory × Except QueueError Unit) := do
  match ← agent.schedule memory with
  | (memory, .error e) => return (memory, .error e)
  | (memory, .ok ()) => return (← agent.shutdown memory, .ok ())

/-- What the loop says about a step that it has made. -/
def eventOf (l : AgentLoop) : AgentLoop.Step → Option Event
  | .observe => some ⟨.info, "shutdown requested", []⟩
  | .finish => some ⟨.info, "agent stopped", []⟩
  | .resume =>
    match l.position with
    | .bringing caller =>
      match l.queue.answer? caller with
      | some (.rejected e) => some ⟨.warn, "stopping scheduler", [("error", .text e.message)]⟩
      | _ => none
    | _ => none
  | _ => none

/-- What happens besides a step of the loop: what goes with a step of the queue, a report, and after
each pass a look for the signal and else a pause. -/
def accompanyLoop (agent : Agent m) (isSignalled : m Bool) (pause : m Unit) (buffer : Buffer)
    (before after : AgentLoop) (s : AgentLoop.Step) : m (Buffer × AgentLoop) := do
  match eventOf before s with
  | some e => report e
  | none => pure ()
  match s with
  | .queue s =>
    let memory ← agent.accompany ⟨after.queue, buffer⟩ s
    return (memory.buffer, after)
  | .resume =>
    if after.position = .waiting then
      if ← isSignalled then return (buffer, { after with signalled := true })
      pause
    return (buffer, after)
  | _ => return (buffer, after)

/-- Steps of the loop, at most so many. -/
def loopWithin (agent : Agent m) (isSignalled : m Bool) (pause : m Unit) :
    Nat → Buffer → AgentLoop → m (Buffer × AgentLoop)
  | 0, buffer, l => return (buffer, l)
  | n + 1, buffer, l => do
    match l.next? .completed with
    | none => return (buffer, l)
    | some s =>
      match l.step? s with
      | none => return (buffer, l)
      | some after =>
        let (buffer, after) ← agent.accompanyLoop isSignalled pause buffer l after s
        loopWithin agent isSignalled pause n buffer after

/-- The loop until it stops, at most so many steps. -/
def runLoop (agent : Agent m) (isSignalled : m Bool) (pause : m Unit) (steps : Nat)
    (memory : Memory) : m Memory := do
  let (buffer, l) ← agent.loopWithin isSignalled pause steps memory.buffer (.start memory.queue)
  return ⟨l.queue, buffer⟩

/-- What is said at the beginning of the loop. -/
def startedEvent (agent : Agent m) : Event :=
  ⟨.info, "agent started",
    [("interval", .text agent.interval.text), ("state_file", .text agent.stateFile)]⟩

end

end Agent

end HostInventory
