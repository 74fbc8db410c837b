import HostInventory.Text.Quoted

/-!
# The task queue

One worker runs tasks one at a time. Whoever brings a task waits until the worker takes it, so a
busy worker holds producers back. A lock serializes everybody who brings a task or closes the
queue; it stays held while its holder waits for the worker. A task on its way to the worker stands
in a buffer with room for one.

The queue is a machine of small steps. A step belongs to one caller or to the worker and runs from
one point where it may have to wait to the next, so that any interleaving of callers and worker is
a list of steps. Only what the worker does between taking a task and running it is cut in two: the
confirmation comes first, and its caller may go on before the task has come to its first line. A
caller may be dropped wherever it waits. A task that has reached the buffer is no longer its
caller's: it is run even when the caller is dropped. When a task or the hook after it panics, the
worker ends for ever, and what stands in the buffer is dropped.

Callers are numbered in the order in which they arrive, and a task has the number of its caller.
Which of several waiting callers gets the lock is left open here; the scheduler of
`Queue.next?` gives it to the first.
-/

namespace HostInventory

/-- Why a task was not accepted; the task is not run in either case. -/
inductive QueueError where
  /-- The queue takes no more tasks. -/
  | closed (task : String)
  /-- The worker ended before it took the task. -/
  | workerStopped (task : String)
deriving Repr, DecidableEq

namespace QueueError

def task : QueueError → String
  | closed task => task
  | workerStopped task => task

def message : QueueError → String
  | closed task => "task queue is closed, dropping task " ++ Text.quoted task
  | workerStopped task => "task queue worker stopped, dropping task " ++ Text.quoted task

end QueueError

inductive QueueState where
  /-- No task was ever brought, there is no worker. -/
  | created
  /-- There is a worker. -/
  | running
  /-- No more tasks are taken. -/
  | closed
deriving Repr, DecidableEq, Inhabited

namespace QueueState

/-- The name of a state in data. -/
def name : QueueState → String
  | created => "created"
  | running => "running"
  | closed => "closed"

/-- The name of a state in the description of a queue. -/
def title : QueueState → String
  | created => "Created"
  | running => "Running"
  | closed => "Closed"

end QueueState

namespace Queue

inductive Request where
  | enqueue (task : String)
  | close
deriving Repr, DecidableEq

inductive Answer where
  /-- The worker has taken the task. -/
  | accepted
  /-- The task is not run. -/
  | rejected (e : QueueError)
  /-- The queue is closed and the worker has ended. -/
  | closed
deriving Repr, DecidableEq

/-- What has become of the promise that the worker confirms a task. -/
inductive Confirmation where
  | pending
  | given
  /-- The worker ended before it took the task. -/
  | lost
deriving Repr, DecidableEq

/-- How far a caller has come. -/
inductive Stage where
  /-- Waits for the lock. -/
  | waiting
  /-- Holds the lock and waits for room in the buffer. -/
  | sending
  /-- Holds the lock and waits for the worker to take the task. -/
  | confirming (c : Confirmation)
  /-- Holds the lock and waits for the end of the worker. -/
  | joining
  | returned (a : Answer)
  /-- Was dropped before it had an answer. -/
  | dropped
deriving Repr, DecidableEq

structure Call where
  request : Request
  stage : Stage
deriving Repr, DecidableEq

/-- What the worker is doing; tasks are named by the numbers of their callers. -/
inductive Worker where
  /-- There was no worker yet. -/
  | absent
  /-- Waits for a task. -/
  | idle
  /-- Has taken a task and is about to start it. -/
  | taken (task : Nat)
  /-- Runs a task. -/
  | running (task : Nat)
  /-- Has completed a task and is about to call the hook. -/
  | completed (task : Nat)
  /-- Has ended because nothing more can come. -/
  | exited
  /-- Has ended because a task or the hook panicked. -/
  | panicked
deriving Repr, DecidableEq

def Worker.hasEnded : Worker → Bool
  | exited => true
  | panicked => true
  | _ => false

/-- One step of a caller or of the worker. -/
inductive Step where
  /-- Someone calls. -/
  | call (request : Request)
  /-- A caller is dropped where it waits. -/
  | drop (caller : Nat)
  /-- A caller takes the free lock and looks at the state. -/
  | lock (caller : Nat)
  /-- The holder of the lock puts its task into the buffer, or finds that the worker has ended. -/
  | send (caller : Nat)
  /-- The holder of the lock has what it waited for and returns. -/
  | answer (caller : Nat)
  /-- The worker takes the task in the buffer and confirms it. -/
  | receive
  /-- The worker starts the task that it has taken. -/
  | start
  /-- The running task is completed. -/
  | complete
  /-- The worker calls the hook. -/
  | hook
  /-- The running task or the hook panics. -/
  | panic
  /-- The worker ends since the queue is closed and the buffer empty. -/
  | exit
deriving Repr, DecidableEq

end Queue

/-- A task queue with everyone who ever called it. -/
structure Queue where
  state : QueueState
  /-- The caller that holds the lock. -/
  holder : Option Nat
  /-- The task in the buffer. -/
  buffer : Option Nat
  worker : Queue.Worker
  /-- Whether a hook is called after each task. -/
  hooked : Bool
  calls : List Queue.Call
deriving Repr, DecidableEq

namespace Queue

/-- A queue that nobody has called. -/
def fresh (hooked : Bool) : Queue :=
  ⟨.created, none, none, .absent, hooked, []⟩

def stage? (q : Queue) (caller : Nat) : Option Stage :=
  q.calls[caller]?.map Call.stage

def answer? (q : Queue) (caller : Nat) : Option Answer :=
  match q.stage? caller with
  | some (.returned a) => some a
  | _ => none

def taskName (q : Queue) (task : Nat) : String :=
  match q.calls[task]? with
  | some ⟨.enqueue name, _⟩ => name
  | _ => ""

def setStage (q : Queue) (caller : Nat) (s : Stage) : Queue :=
  { q with calls := q.calls.modify caller fun c => { c with stage := s } }

/-- Frees the lock if a caller holds it. -/
def unlockBy (q : Queue) (caller : Nat) : Queue :=
  if q.holder = some caller then { q with holder := none } else q

/-- Gives a caller its answer; the lock is free afterwards. -/
def giveAnswer (q : Queue) (caller : Nat) (a : Answer) : Queue :=
  { q.setStage caller (.returned a) with holder := none }

/-- What a caller does as soon as it has the lock. -/
def enter (q : Queue) (caller : Nat) (request : Request) : Queue :=
  match request, q.state with
  | .enqueue _, .created =>
    { q.setStage caller .sending with state := .running, worker := .idle, holder := some caller }
  | .enqueue _, .running => { q.setStage caller .sending with holder := some caller }
  | .enqueue name, .closed => q.giveAnswer caller (.rejected (.closed name))
  | .close, .running =>
    { q.setStage caller .joining with state := .closed, holder := some caller }
  | .close, .created => { q.giveAnswer caller .closed with state := .closed }
  | .close, .closed => q.giveAnswer caller .closed

/-- Resolves the promise of a caller that still waits for it. -/
def resolve (q : Queue) (caller : Nat) (c : Confirmation) : Queue :=
  if q.stage? caller = some (.confirming .pending) then q.setStage caller (.confirming c) else q

/-- The end of the worker by a panic: what stands in the buffer is dropped with its promise. -/
def crash (q : Queue) : Queue :=
  match q.buffer with
  | some task => { q.resolve task .lost with buffer := none, worker := .panicked }
  | none => { q with worker := .panicked }

/-- The answer that the holder of the lock is due, if it is due one. -/
def due? (q : Queue) (call : Call) : Option Answer :=
  match call with
  | ⟨.enqueue _, .confirming .given⟩ => some .accepted
  | ⟨.enqueue name, .confirming .lost⟩ => some (.rejected (.workerStopped name))
  | ⟨.close, .joining⟩ => if q.worker.hasEnded then some .closed else none
  | _ => none

/-- One step; nothing where the step cannot be made. -/
def step? (q : Queue) : Step → Option Queue
  | .call request => some { q with calls := q.calls ++ [⟨request, .waiting⟩] }
  | .drop caller =>
    match q.stage? caller with
    | none => none
    | some (.returned _) => none
    | some .dropped => none
    | some _ => some ((q.setStage caller .dropped).unlockBy caller)
  | .lock caller =>
    match q.calls[caller]? with
    | some ⟨request, .waiting⟩ => if q.holder.isNone then some (q.enter caller request) else none
    | _ => none
  | .send caller =>
    match q.calls[caller]? with
    | some ⟨.enqueue name, .sending⟩ =>
      if q.worker.hasEnded then some (q.giveAnswer caller (.rejected (.workerStopped name)))
      else if q.buffer.isNone then
        some { q.setStage caller (.confirming .pending) with buffer := some caller }
      else none
    | _ => none
  | .answer caller =>
    match q.calls[caller]? with
    | some call => (q.due? call).map (q.giveAnswer caller)
    | none => none
  | .receive =>
    match q.worker, q.buffer with
    | .idle, some task => some { q.resolve task .given with buffer := none, worker := .taken task }
    | _, _ => none
  | .start =>
    match q.worker with
    | .taken task => some { q with worker := .running task }
    | _ => none
  | .complete =>
    match q.worker with
    | .running task => some { q with worker := if q.hooked then .completed task else .idle }
    | _ => none
  | .hook =>
    match q.worker with
    | .completed _ => some { q with worker := .idle }
    | _ => none
  | .panic =>
    match q.worker with
    | .running _ => some q.crash
    | .completed _ => some q.crash
    | _ => none
  | .exit =>
    match q.worker, q.buffer, q.state with
    | .idle, none, .closed => some { q with worker := .exited }
    | _, _, _ => none

/-- The steps of a list, one after the other. -/
def run? (q : Queue) : List Step → Option Queue
  | [] => some q
  | s :: rest => (q.step? s).bind fun q' => run? q' rest

/-- The state, unless someone holds the lock. -/
def stateWhenFree (q : Queue) : Option QueueState :=
  if q.holder.isNone then some q.state else none

def text (q : Queue) : String :=
  let state := match q.stateWhenFree with
    | some state => "Some(" ++ state.title ++ ")"
    | none => "None"
  "TaskQueue \x7b state: " ++ state ++ ", after_task: " ++ (if q.hooked then "true" else "false") ++
    " \x7d"

end Queue

end HostInventory
