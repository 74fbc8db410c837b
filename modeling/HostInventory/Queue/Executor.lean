import HostInventory.Queue.Scheduler

/-!
# Running tasks on a queue

An executor runs callers, worker and tasks of one queue until nothing can make progress. Tasks are
small programs: they may wait at a gate for a permit, panic, or call the very queue that runs them.
A task that calls its own queue keeps the worker from ever serving it, unless the queue turns it
away.

Each task says when it starts and when it ends.
-/

namespace HostInventory.Queue

/-- What a task does between its start and its end. -/
inductive Program where
  | nothing
  /-- Takes one permit of a gate, waiting until there is one. -/
  | gate (name : String)
  | panics
  /-- Brings another task to the queue. -/
  | enqueues
  | closes
deriving Repr, DecidableEq, Inhabited

inductive Position where
  | atGate (name : String)
  /-- Waits for the answer to its own call. -/
  | calling (caller : Nat)
  | atEnd
  | panicked
deriving Repr, DecidableEq

/-- A queue with the tasks brought to it and what they have said. -/
structure Executor where
  queue : Queue
  /-- The programs of tasks; the rest do nothing. -/
  programs : List (Nat × Program)
  /-- The permits at gates. -/
  permits : List (String × Nat)
  /-- Where the running task stands. -/
  position : Position
  /-- What was said, the latest first. -/
  said : List String
  /-- How often the hook was called. -/
  hookCalls : Nat
deriving Repr

namespace Executor

/-- An executor with a queue that nobody has called. -/
def fresh (hooked : Bool) : Executor :=
  ⟨.fresh hooked, [], [], .atEnd, [], 0⟩

def say (e : Executor) (line : String) : Executor :=
  { e with said := line :: e.said }

/-- Calls the queue; with the caller's number. -/
def call (e : Executor) (request : Request) (program : Program) : Nat × Executor :=
  let caller := e.queue.calls.length
  let queue := (e.queue.step? (.call request)).getD e.queue
  (caller, { e with queue, programs := (caller, program) :: e.programs })

def drop (e : Executor) (caller : Nat) : Executor :=
  { e with queue := (e.queue.step? (.drop caller)).getD e.queue }

def permitsAt (e : Executor) (gate : String) : Nat :=
  (e.permits.lookup gate).getD 0

def setPermits (e : Executor) (gate : String) (n : Nat) : Executor :=
  { e with permits := (gate, n) :: e.permits.filter (·.1 != gate) }

def release (e : Executor) (gate : String) (n : Nat) : Executor :=
  e.setPermits gate (e.permitsAt gate + n)

def begin (e : Executor) (task : Nat) : Executor :=
  let name := e.queue.taskName task
  let e := e.say ("start " ++ name)
  match (e.programs.lookup task).getD .nothing with
  | .nothing => { e with position := .atEnd }
  | .gate gate => { e with position := .atGate gate }
  | .panics => { e with position := .panicked }
  | .enqueues =>
    let (caller, e) := e.call (.enqueue (name ++ "/inner")) .nothing
    { e with position := .calling caller }
  | .closes =>
    let (caller, e) := e.call .close .nothing
    { e with position := .calling caller }

/-- What the queue is told of the running task. -/
def progress (e : Executor) : Progress :=
  match e.position with
  | .atEnd => .completed
  | .panicked => .panicked
  | _ => .busy

/-- What is said and done besides a step of the queue. -/
def accompany (e : Executor) (s : Step) : Executor :=
  match s, e.queue.worker with
  | .start, .running task => e.begin task
  | .hook, _ => { e with hookCalls := e.hookCalls + 1 }
  | _, _ => e

/-- The end of a task, said before the queue hears of it. -/
def announce (e : Executor) (s : Step) : Executor :=
  match s, e.queue.worker with
  | .complete, .running task => e.say ("end " ++ e.queue.taskName task)
  | _, _ => e

/-- What the running task can do by itself. -/
def taskStep? (e : Executor) : Option Executor :=
  match e.position with
  | .atGate gate =>
    match e.permitsAt gate with
    | 0 => none
    | n + 1 => some { e.setPermits gate n with position := .atEnd }
  | .calling caller =>
    match e.queue.answer? caller with
    | some .accepted => some { e.say "nested true" with position := .atEnd }
    | some (.rejected _) => some { e.say "nested false" with position := .atEnd }
    | some .closed => some { e with position := .atEnd }
    | none => none
  | _ => none

/-- One step of the queue or of the running task. -/
def step? (e : Executor) : Option Executor :=
  match e.queue.next? e.progress with
  | some s =>
    match e.queue.step? s with
    | some queue => some ({ e.announce s with queue }.accompany s)
    | none => none
  | none => e.taskStep?

/-- Steps until none can be made, at most so many. -/
def settleWithin : Nat → Executor → Executor
  | 0, e => e
  | n + 1, e =>
    match e.step? with
    | some e' => settleWithin n e'
    | none => e

/-- Runs everything until nothing can make progress. -/
def settle (e : Executor) : Executor :=
  settleWithin e.queue.enoughSteps e

end Executor

end HostInventory.Queue
