import HostInventory.Queue.Basic

/-!
# Scheduling a queue

A scheduler that gives the lock to the caller that came first and otherwise makes any step that can
be made. What the running task does is not known to the queue, so the scheduler is told whether the
task is still busy.
-/

namespace HostInventory.Queue

/-- What the running task, or the hook, has come to. -/
inductive Progress where
  | busy
  | completed
  | panicked
deriving Repr, DecidableEq

/-- The caller that has waited for the lock longest. -/
def firstWaiting? (q : Queue) : Option Nat :=
  q.calls.findIdx? fun c => c.stage == .waiting

/-- The step that the holder of the lock can make. -/
def holderStep? (q : Queue) : Option Step :=
  match q.holder with
  | none => q.firstWaiting?.map .lock
  | some caller =>
    match q.stage? caller with
    | some .sending =>
      if q.worker.hasEnded || q.buffer.isNone then some (.send caller) else none
    | some (.confirming .given) => some (.answer caller)
    | some (.confirming .lost) => some (.answer caller)
    | some .joining => if q.worker.hasEnded then some (.answer caller) else none
    | _ => none

def workerStep? (q : Queue) (progress : Progress) : Option Step :=
  match q.worker with
  | .idle =>
    match q.buffer, q.state with
    | some _, _ => some .receive
    | none, .closed => some .exit
    | none, _ => none
  | .taken _ => some .start
  | .running _ =>
    match progress with
    | .busy => none
    | .completed => some .complete
    | .panicked => some .panic
  | .completed _ => some .hook
  | _ => none

/-- The next step, if any can be made. -/
def next? (q : Queue) (progress : Progress) : Option Step :=
  (q.holderStep?).or (q.workerStep? progress)

/-- How many steps are enough until nothing can make progress: each caller and each task takes a
few. -/
def enoughSteps (q : Queue) : Nat :=
  32 * (q.calls.length + 1)

end HostInventory.Queue
