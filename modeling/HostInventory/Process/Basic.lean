import HostInventory.Command.Error

/-!
# Processes and what is left of them

A process writes on two streams and ends, by itself with a status or by a signal. Whoever started
it learns of this through what the streams are attached to: pipes keep them apart and tell a signal
from a status, a terminal merges them into what it shows and reports a process that a signal ended
as one that ended with status 1.
-/

namespace HostInventory

inductive OutStream where
  | standard
  | errors
deriving Repr, DecidableEq

inductive Ending where
  /-- By itself, with a status. -/
  | exited (status : UInt8)
  | killed (signal : Nat)
deriving Repr, DecidableEq

/-- What becomes of a process that is left alone. -/
inductive Fate where
  | ends (ending : Ending)
  /-- It never ends, and writes the same octets on its standard stream over and over. -/
  | endless (refrain : Octets)
deriving Repr, DecidableEq

/-- The life of a process: what it wrote, in order, for how many nanoseconds it ran, and what
became of it. -/
structure Process where
  written : List (OutStream × Octets)
  nanos : Nat
  fate : Fate
deriving Repr, DecidableEq

/-- What the streams of a process are attached to. -/
inductive Attachment where
  /-- Nothing to read, and a pipe for each stream. -/
  | pipes
  /-- A terminal of so many rows and columns at which nobody types. -/
  | terminal (rows columns : Nat)
deriving Repr, DecidableEq

namespace Attachment

/-- A terminal as nobody asked for another: wide enough that tables keep a row on a line. -/
def wideTerminal : Attachment :=
  terminal 24 512

/-- The name of this way to run programs. -/
def name : Attachment → String
  | pipes => "direct"
  | terminal _ _ => "pty"

def octetsOn (stream : OutStream) (written : List (OutStream × Octets)) : Octets :=
  (written.filter (·.1 == stream)).flatMap (·.2)

/-- What a terminal makes of octets: a line feed goes back to the left edge first. -/
def shown (octets : Octets) : Octets :=
  octets.flatMap fun octet => if octet = 10 then [13, 10] else [octet]

/-- What arrives of what a process wrote: two streams from pipes, a single one from a terminal. -/
def capture (a : Attachment) (written : List (OutStream × Octets)) (duration : Duration) :
    CommandOutput :=
  match a with
  | pipes => ⟨octetsOn .standard written, octetsOn .errors written, duration⟩
  | terminal _ _ => ⟨shown (written.flatMap (·.2)), [], duration⟩

/-- What an ending means for the one who started the process. -/
def outcome (a : Attachment) (ending : Ending) (output : CommandOutput) :
    Except CommandError CommandOutput :=
  match a, ending with
  | _, .exited status =>
    if status = 0 then .ok output else .error (.exitStatus status.toNat output)
  | pipes, .killed _ => .error (.terminated output)
  | terminal _ _, .killed _ => .error (.exitStatus 1 output)

/-! ## What is known of outcomes -/

/-- Only a process that ended by itself with status zero succeeds. -/
theorem outcome_eq_ok_iff (a : Attachment) (ending : Ending) (output result : CommandOutput) :
    a.outcome ending output = .ok result ↔ ending = .exited 0 ∧ result = output := by
  cases ending with
  | exited status =>
    by_cases h : status = 0
    · simp [outcome, h, eq_comm]
    · simp [outcome, h]
  | killed signal => cases a <;> simp [outcome]

/-- A signal is told from a status through pipes. -/
theorem outcome_pipes_killed (signal : Nat) (output : CommandOutput) :
    pipes.outcome (.killed signal) output = .error (.terminated output) :=
  rfl

/-- A signal cannot be told from status 1 through a terminal. -/
theorem outcome_terminal_killed (rows columns signal : Nat) (output : CommandOutput) :
    (terminal rows columns).outcome (.killed signal) output =
      (terminal rows columns).outcome (.exited 1) output :=
  rfl

end Attachment

namespace Command

/-- When the caller stops waiting, in nanoseconds from the start, and with which error: when the
command is called off or its time is over, whatever comes first. -/
def interruption? (c : Command) (calledOffAt : Option Nat) : Option (Nat × CommandError) :=
  match calledOffAt, c.timeout with
  | none, none => none
  | some at', none => some (at', .canceled c.program)
  | none, some timeout => some (timeout.toNanos, .timeout timeout)
  | some at', some timeout =>
    if at' ≤ timeout.toNanos then some (at', .canceled c.program)
    else some (timeout.toNanos, .timeout timeout)

/-- Waits for a process of the command; nothing when that never ends. -/
def await? (c : Command) (calledOffAt : Option Nat) (a : Attachment) (p : Process) :
    Option (Except CommandError CommandOutput) :=
  let result? :=
    match p.fate with
    | .ends ending => some (a.outcome ending (a.capture p.written (.ofNanos p.nanos)))
    | .endless _ => none
  match c.interruption? calledOffAt, result? with
  | none, result? => result?
  | some (_, error), none => some (.error error)
  | some (nanos, error), some result => some (if nanos ≤ p.nanos then .error error else result)

end Command

end HostInventory
