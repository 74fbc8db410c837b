import HostInventory.Queue.Scheduler

/-!
# The loop of the agent

The loop brings one pass after the other to the queue, each after a tick, and never a second one
before the first is answered. It looks for the signal to stop while it waits for a tick and while
it brings a pass; when it sees the signal it drops what it was doing and closes the queue. A pass
that has reached the buffer by then still runs, and closing waits for it. When the signal cannot be
listened for, the loop drops what it was doing as well, but fails without closing the queue.

The loop is a machine of small steps over the queue, so that any interleaving of ticks, the signal
and the worker is a list of steps. The loop is the only one who calls the queue.
-/

namespace HostInventory

/-- The name of every task that the agent brings. -/
def collectionTask : String :=
  "collect-inventory"

namespace AgentLoop

inductive Position where
  /-- Waits for a tick or the signal. -/
  | waiting
  /-- Brings a pass in a call to the queue, or sees the signal before that is answered. -/
  | bringing (caller : Nat)
  /-- Waits for its call that closes the queue. -/
  | closing (caller : Nat)
  | stopped
  /-- Ended because the signal cannot be listened for. -/
  | failed
deriving Repr, DecidableEq

/-- One step of the loop or of what goes on beside it. -/
inductive Step where
  /-- The signal to stop arrives. -/
  | signal
  /-- A tick makes the loop bring a pass. -/
  | tick
  /-- The loop sees the signal. -/
  | observe
  /-- The loop learns that the signal cannot be listened for. -/
  | fail
  /-- The loop has the answer to its pass. -/
  | resume
  /-- The loop finds the queue closed. -/
  | finish
  /-- The queue goes on by itself. -/
  | queue (s : Queue.Step)
deriving Repr, DecidableEq

end AgentLoop

structure AgentLoop where
  queue : Queue
  position : AgentLoop.Position
  /-- Whether the signal has arrived. -/
  signalled : Bool
deriving Repr, DecidableEq

namespace AgentLoop

/-- A loop that is about to wait for its first tick. -/
def start (queue : Queue) : AgentLoop :=
  ⟨queue, .waiting, false⟩

/-- Calls the queue; with the number of the call. -/
def call (l : AgentLoop) (r : Queue.Request) (position : Nat → Position) : AgentLoop :=
  let queue := (l.queue.step? (.call r)).getD l.queue
  { l with queue, position := position l.queue.calls.length }

def close (l : AgentLoop) : AgentLoop :=
  l.call .close .closing

/-- Whether a step of the queue is nobody's call and nobody's drop. -/
def goesOn : Queue.Step → Bool
  | .call _ => false
  | .drop _ => false
  | _ => true

/-- One step; nothing where the step cannot be made. -/
def step? (l : AgentLoop) : Step → Option AgentLoop
  | .signal => some { l with signalled := true }
  | .tick =>
    match l.position with
    | .waiting => some (l.call (.enqueue collectionTask) .bringing)
    | _ => none
  | .observe =>
    if !l.signalled then none
    else
      match l.position with
      | .waiting => some l.close
      | .bringing caller => (l.queue.step? (.drop caller)).map fun queue => { l with queue }.close
      | _ => none
  | .fail =>
    match l.position with
    | .waiting => some { l with position := .failed }
    | .bringing caller =>
      (l.queue.step? (.drop caller)).map fun queue => { l with queue, position := .failed }
    | _ => none
  | .resume =>
    match l.position with
    | .bringing caller =>
      match l.queue.answer? caller with
      | some .accepted => some { l with position := .waiting }
      | some (.rejected _) => some l.close
      | _ => none
    | _ => none
  | .finish =>
    match l.position with
    | .closing caller =>
      if l.queue.answer? caller = some .closed then some { l with position := .stopped } else none
    | _ => none
  | .queue s => if goesOn s then (l.queue.step? s).map fun queue => { l with queue } else none

/-- The steps of a list, one after the other. -/
def run? (l : AgentLoop) : List Step → Option AgentLoop
  | [] => some l
  | s :: rest => (l.step? s).bind fun l' => run? l' rest

/-- The next step when the queue goes first, ticks come at once and nothing is dropped. -/
def next? (l : AgentLoop) (progress : Queue.Progress) : Option Step :=
  match l.position with
  | .stopped => none
  | .failed => none
  | .waiting => some (if l.signalled then .observe else .tick)
  | .bringing _ => some (((l.queue.next? progress).map .queue).getD .resume)
  | .closing _ => some (((l.queue.next? progress).map .queue).getD .finish)

end AgentLoop

end HostInventory
