import HostInventory.Provider.Apt
import HostInventory.Provider.Dpkg
import HostInventory.Provider.Rpm
import HostInventory.Provider.Yum

/-!
# Queries and the replies they get

A query asks through runners of which nothing is known. Here the runners take their answers from one
sequence of replies, and every command is kept as it is issued; the sequence is arbitrary, so that
whatever holds for it holds for every run of a query. Each query issues the commands of its plan one
after the other, and the first reply that does not let it go on decides how it ends
(`decided_by_first_ending_reply`): with the failure of that command, with what the command wrote or,
for yum alone, with nothing to report.
-/

namespace HostInventory

abbrev Reply :=
  Except CommandError CommandOutput

/-- What the streams of a command are attached to. -/
inductive Channel where
  | pipes
  | terminal
deriving Repr, DecidableEq

/-! ## Dialogues -/

/-- Computations that keep the commands that were issued, in order. -/
abbrev Dialogue :=
  StateM (List (Channel × Command))

instance : MonadLog Dialogue where
  report _ := pure ()

namespace Dialogue

variable {α β : Type}

/-- What a computation gives, and all commands that were issued until its end. -/
def run (x : Dialogue α) (issued : List (Channel × Command)) : α × List (Channel × Command) :=
  Id.run (StateT.run x issued)

@[simp] theorem run_pure (a : α) (issued : List (Channel × Command)) :
    run (pure a) issued = (a, issued) :=
  rfl

@[simp] theorem run_bind (x : Dialogue α) (f : α → Dialogue β)
    (issued : List (Channel × Command)) :
    run (x >>= f) issued = run (f (run x issued).1) (run x issued).2 :=
  rfl

@[simp] theorem run_report (e : Event) (issued : List (Channel × Command)) :
    run (report e) issued = ((), issued) :=
  rfl

@[simp] theorem run_reportAll (es : List Event) (issued : List (Channel × Command)) :
    run (reportAll es) issued = ((), issued) := by
  induction es with
  | nil => rfl
  | cons e es ih => rw [reportAll, run_bind, run_report, ih]

theorem run_reports (es : List Event) (e : Event) (a : α) (issued : List (Channel × Command)) :
    run (do reportAll es; report e; return a) issued = (a, issued) := by
  rw [run_bind, run_reportAll]
  rfl

/-- Answers a command by the reply that is next; all channels share the sequence. -/
def runner (replies : Nat → Reply) (channel : Channel) : Runner Dialogue where
  run c := do
    let issued ← get
    set (issued ++ [(channel, c)])
    return replies issued.length

variable {replies : Nat → Reply} {channel : Channel}

@[simp] theorem run_runner (c : Command) (issued : List (Channel × Command)) :
    run ((runner replies channel).run c) issued =
      (replies issued.length, issued ++ [(channel, c)]) :=
  rfl

end Dialogue

/-- The standard output of a successful command, or the failure of the command. -/
def Reply.stdout (c : Command) (reply : Reply) : Except QueryError Octets :=
  match reply with
  | .ok output => .ok output.stdout
  | .error cause => .error (.ofCommand c cause)

@[simp] theorem Dialogue.run_stdout (replies : Nat → Reply) (channel : Channel) (c : Command)
    (issued : List (Channel × Command)) :
    run ((runner replies channel).stdout c) issued =
      (Reply.stdout c (replies issued.length), issued ++ [(channel, c)]) := by
  rw [Runner.stdout, run_bind, run_runner]
  cases replies issued.length with
  | ok output => rfl
  | error cause => rfl

/-- A command whose failure ends a question, and what is said of its output otherwise. -/
theorem Dialogue.run_stdout_match {α : Type} {replies : Nat → Reply} {channel : Channel}
    {c : Command} {f : Octets → Except QueryError α}
    {answer : Octets → Dialogue (Except QueryError α)} (issued : List (Channel × Command))
    (h : ∀ stdout issued, run (answer stdout) issued = (f stdout, issued)) :
    run (do
        match ← (runner replies channel).stdout c with
        | .error e => return .error e
        | .ok stdout => answer stdout) issued =
      ((Reply.stdout c (replies issued.length)).bind f, issued ++ [(channel, c)]) := by
  rw [run_bind, run_stdout]
  cases Reply.stdout c (replies issued.length) with
  | error e => rfl
  | ok stdout => exact h stdout _

/-! ## The queries -/

inductive Query where
  | dpkgInstalled
  | rpmInstalled
  | rpmFile (path : String)
  | aptUpdates
  | yumUpdates (options : Yum.Options)
deriving Repr, DecidableEq

namespace Query

/-- Asks a question; what a package file holds is a list of one package. -/
def ask {m : Type → Type} [Monad m] [MonadLog m] (q : Query) (direct terminal : Runner m)
    (timeout : Option Duration) : m (Except QueryError (List Package)) :=
  match q with
  | dpkgInstalled => Dpkg.installed direct timeout
  | rpmInstalled => Rpm.installed direct timeout
  | rpmFile path => return (← Rpm.packageInfo direct timeout path).map ([·])
  | aptUpdates => Apt.updates direct timeout
  | yumUpdates options => Yum.updates direct terminal options timeout

/-- The answer to a question and the commands that were issued for it. -/
def transcript (q : Query) (timeout : Option Duration) (replies : Nat → Reply) :
    Except QueryError (List Package) × List (Channel × Command) :=
  (q.ask (Dialogue.runner replies .pipes) (Dialogue.runner replies .terminal) timeout).run []

/-- The commands that a question may need, in order. -/
def plan (timeout : Option Duration) : Query → List (Channel × Command)
  | dpkgInstalled =>
    [(.pipes, ⟨"/usr/bin/dpkg-query", ["-W", "-f", Dpkg.template Dpkg.fields], timeout⟩)]
  | rpmInstalled =>
    [(.pipes, ⟨"/usr/bin/rpmquery", ["--queryformat", Rpm.queryFormat, "-a"], timeout⟩)]
  | rpmFile path =>
    [(.pipes, ⟨"/usr/bin/rpmquery", ["--queryformat", Rpm.queryFormat, "-p", path], timeout⟩)]
  | aptUpdates =>
    [(.pipes, ⟨"/usr/bin/apt-get", ["update", "-qq"], timeout⟩),
      (.pipes, ⟨"/usr/bin/apt", ["list", "--upgradable"], timeout⟩)]
  | yumUpdates options =>
    [(.pipes, ⟨"/usr/bin/yum", ["check-update", "--assumeyes"], timeout⟩),
      (.terminal, ⟨"/usr/bin/yum",
        [if options.minimal then "update-minimal" else "update", "--assumeno", "--cacheonly",
          "--color=never"] ++ if options.security then ["--security"] else [], timeout⟩)]

/-- How the output of the last command is read. -/
def reading : Query → Octets → Except QueryError (List Package)
  | dpkgInstalled, stdout => .ok (Dpkg.parseInstalled stdout)
  | rpmInstalled, stdout => .ok (Rpm.parseInstalled stdout)
  | rpmFile _, stdout =>
    match Rpm.parseInstalled stdout with
    | [package] => .ok [package]
    | packages => .error (Rpm.unexpectedCount packages stdout)
  | aptUpdates, stdout => .ok (Apt.parseUpgradable (Utf8.lossyChars stdout))
  | yumUpdates _, stdout => .ok (Yum.parseUpdates stdout)

/-- The failures that a question takes for an answer, each only as the reply at one place: the
status by which yum says that updates are pending, and the one with which its dry run ends. -/
inductive Interprets : Query → Nat → CommandError → Prop where
  | pending (options : Yum.Options) (output : CommandOutput) :
      Interprets (yumUpdates options) 0 (.exitStatus 100 output)
  | aborted (options : Yum.Options) (output : CommandOutput) :
      Interprets (yumUpdates options) 1 (.exitStatus 1 output)

/-- Whether the next command is issued after a reply. Yum goes on when its check fails with the
status for pending updates, the others when their command succeeds. -/
def GoesOn : Query → Reply → Prop
  | yumUpdates _, reply => ∃ output, reply = .error (.exitStatus 100 output)
  | _, reply => ∃ output, reply = .ok output

/-- What a reply at a place leaves to read. -/
inductive Leaves (q : Query) (n : Nat) : Reply → Octets → Prop where
  | succeeded (output : CommandOutput) : Leaves q n (.ok output) output.stdout
  | interpreted {cause : CommandError} {output : CommandOutput} (h : q.Interprets n cause)
      (houtput : cause.output? = some output) : Leaves q n (.error cause) output.stdout

/-- How a question ends with the reply at a place. -/
inductive Ending (q : Query) (timeout : Option Duration) (n : Nat) :
    Reply → Except QueryError (List Package) → Prop where
  /-- The command failed; the error says which command that was and what it wrote. -/
  | failed {channel : Channel} {c : Command} {cause : CommandError}
      (hc : (q.plan timeout)[n]? = some (channel, c)) (h : ¬ q.Interprets n cause) :
      Ending q timeout n (.error cause)
        (.error (.command c.program c.args cause
          ((cause.output?.map fun output => Utf8.lossy output.stdout).getD "")
          ((cause.output?.map fun output => Utf8.lossy output.stderr).getD "")))
  /-- The check of yum succeeded, which means that no update is pending. -/
  | nothingPending {options : Yum.Options} (hq : q = yumUpdates options) (hn : n = 0)
      (output : CommandOutput) : Ending q timeout n (.ok output) (.ok [])
  /-- The last command left something to read. -/
  | read {reply : Reply} {stdout : Octets} (hlast : n + 1 = (q.plan timeout).length)
      (h : q.Leaves n reply stdout) : Ending q timeout n reply (q.reading stdout)

/-- What the reply at a place decides: which commands are issued and what the answer is. -/
structure DecidedBy (q : Query) (timeout : Option Duration) (replies : Nat → Reply) (n : Nat) :
    Prop where
  issued : (q.transcript timeout replies).2 = (q.plan timeout).take (n + 1)
  goesOn : ∀ k < n, q.GoesOn (replies k)
  ending : q.Ending timeout n (replies n) (q.transcript timeout replies).1

end Query

/-! ## Failures -/

theorem QueryError.ofCommand_eq (c : Command) (cause : CommandError) :
    QueryError.ofCommand c cause = .command c.program c.args cause
      ((cause.output?.map fun output => Utf8.lossy output.stdout).getD "")
      ((cause.output?.map fun output => Utf8.lossy output.stderr).getD "") := by
  unfold ofCommand
  cases cause.output? with
  | none => rfl
  | some output => rfl

theorem CommandError.exitCode?_eq_some_iff {cause : CommandError} {code : Int} :
    cause.exitCode? = some code ↔ ∃ output, cause = .exitStatus code output := by
  cases cause <;> simp [exitCode?]

namespace Query

variable {q : Query} {timeout : Option Duration} {replies : Nat → Reply} {n : Nat}

theorem ending_failed {channel : Channel} {c : Command} {cause : CommandError}
    (hc : (q.plan timeout)[n]? = some (channel, c)) (h : ¬ q.Interprets n cause) :
    q.Ending timeout n (.error cause) (.error (.ofCommand c cause)) := by
  rw [QueryError.ofCommand_eq]
  exact .failed hc h

theorem Leaves.ne_notFound {reply : Reply} {stdout : Octets} (h : q.Leaves n reply stdout)
    (program : String) : reply ≠ .error (.notFound program) := by
  rintro rfl
  cases h with
  | interpreted h _ => cases h

theorem isNotFound_of_reading_eq_error {stdout : Octets} {e : QueryError}
    (h : q.reading stdout = .error e) : e.isNotFound = false := by
  cases q with
  | rpmFile path =>
      simp only [reading] at h
      split at h
      · cases h
      · obtain rfl := Except.error.inj h
        rfl
  | dpkgInstalled => cases h
  | rpmInstalled => cases h
  | aptUpdates => cases h
  | yumUpdates options => cases h

/-- Only a missing program is reported as missing. -/
theorem Ending.isNotFound_iff {reply : Reply} {result : Except QueryError (List Package)}
    (h : q.Ending timeout n reply result) {e : QueryError} (he : result = .error e) :
    e.isNotFound = true ↔ ∃ program, reply = .error (.notFound program) := by
  cases h with
  | failed hc h =>
      rename_i cause
      obtain rfl := Except.error.inj he
      cases cause <;> simp [QueryError.isNotFound, QueryError.cause?, CommandError.isNotFound]
  | nothingPending hq hn output => cases he
  | read hlast h =>
      rw [isNotFound_of_reading_eq_error he]
      exact ⟨nofun, fun ⟨program, hreply⟩ => absurd hreply (h.ne_notFound program)⟩

theorem timeout_of_mem_plan {c : Channel × Command} (h : c ∈ q.plan timeout) :
    c.2.timeout = timeout := by
  cases q <;> simp only [plan, List.mem_cons, List.not_mem_nil, or_false] at h
  · rw [h]
  · rw [h]
  · rw [h]
  · rcases h with rfl | rfl <;> rfl
  · rcases h with rfl | rfl <;> rfl

/-! ## What each query gives -/

variable (timeout replies)

theorem transcript_dpkgInstalled :
    transcript dpkgInstalled timeout replies =
      ((Reply.stdout (Dpkg.command timeout) (replies 0)).bind (reading dpkgInstalled),
        [(.pipes, Dpkg.command timeout)]) :=
  Dialogue.run_stdout_match [] fun _ _ => Dialogue.run_reports ..

theorem transcript_rpmInstalled :
    transcript rpmInstalled timeout replies =
      ((Reply.stdout (Rpm.command timeout) (replies 0)).bind (reading rpmInstalled),
        [(.pipes, Rpm.command timeout)]) :=
  Dialogue.run_stdout_match [] fun _ _ => Dialogue.run_reports ..

theorem transcript_rpmFile (path : String) :
    transcript (rpmFile path) timeout replies =
      ((Reply.stdout (Rpm.fileCommand timeout path) (replies 0)).bind (reading (rpmFile path)),
        [(.pipes, Rpm.fileCommand timeout path)]) := by
  rw [transcript, ask, Dialogue.run_bind, Rpm.packageInfo, Dialogue.run_bind, Dialogue.run_stdout,
    List.length_nil, List.nil_append]
  cases Reply.stdout (Rpm.fileCommand timeout path) (replies 0) with
  | error e => rfl
  | ok stdout =>
      simp only [Dialogue.run_bind, Dialogue.run_reportAll, Except.bind, reading]
      cases Rpm.parseInstalled stdout with
      | nil => rfl
      | cons package more => cases more <;> rfl

theorem transcript_aptUpdates :
    transcript aptUpdates timeout replies =
      match Reply.stdout (Apt.refreshCommand timeout) (replies 0) with
      | .error e => (.error e, [(.pipes, Apt.refreshCommand timeout)])
      | .ok _ =>
        ((Reply.stdout (Apt.listCommand timeout) (replies 1)).bind (reading aptUpdates),
          [(.pipes, Apt.refreshCommand timeout), (.pipes, Apt.listCommand timeout)]) := by
  rw [transcript, ask, Apt.updates, Dialogue.run_bind, Dialogue.run_report, Dialogue.run_bind,
    Dialogue.run_stdout, List.length_nil, List.nil_append]
  cases Reply.stdout (Apt.refreshCommand timeout) (replies 0) with
  | error e => rfl
  | ok _ => exact Dialogue.run_stdout_match _ fun _ _ => Dialogue.run_reports ..

theorem transcript_yumUpdates (options : Yum.Options) :
    transcript (yumUpdates options) timeout replies =
      match Yum.pending (Yum.checkCommand timeout) (replies 0) with
      | .error e => (.error e, [(.pipes, Yum.checkCommand timeout)])
      | .ok false => (.ok [], [(.pipes, Yum.checkCommand timeout)])
      | .ok true =>
        ((Yum.transcript (Yum.dryRunCommand options timeout) (replies 1)).bind
            (reading (yumUpdates options)),
          [(.pipes, Yum.checkCommand timeout),
            (.terminal, Yum.dryRunCommand options timeout)]) := by
  rw [transcript, ask, Yum.updates, Dialogue.run_bind, Dialogue.run_runner, List.length_nil,
    List.nil_append]
  match Yum.pending (Yum.checkCommand timeout) (replies 0) with
  | .error e => rfl
  | .ok false => rfl
  | .ok true =>
      simp only [Dialogue.run_bind, Dialogue.run_runner, List.length_singleton]
      cases Yum.transcript (Yum.dryRunCommand options timeout) (replies 1) with
      | error e => rfl
      | ok stdout => rfl

/-! ## Which reply decides -/

variable {timeout replies}

/-- A question with one command is decided by the reply to it. -/
theorem decidedBy_of_single {channel : Channel} {c : Command}
    (hplan : q.plan timeout = [(channel, c)]) (hfail : ∀ cause, ¬ q.Interprets 0 cause)
    (h : q.transcript timeout replies =
      ((Reply.stdout c (replies 0)).bind q.reading, [(channel, c)])) :
    q.DecidedBy timeout replies 0 where
  issued := by rw [h, hplan]; rfl
  goesOn := nofun
  ending := by
    rw [h]
    cases replies 0 with
    | error cause => exact ending_failed (by rw [hplan]; rfl) (hfail cause)
    | ok output => exact .read (by rw [hplan]; rfl) (.succeeded output)

theorem decidedBy_aptUpdates : ∃ n, aptUpdates.DecidedBy timeout replies n := by
  have h := transcript_aptUpdates timeout replies
  cases hfirst : replies 0 with
  | error cause =>
      rw [hfirst] at h
      refine ⟨0, by rw [h]; rfl, nofun, ?_⟩
      rw [h, hfirst]
      exact ending_failed rfl nofun
  | ok output =>
      rw [hfirst] at h
      refine ⟨1, by rw [h]; rfl, ?_, ?_⟩
      · intro k hk
        obtain rfl : k = 0 := by omega
        exact ⟨output, hfirst⟩
      · rw [h]
        change aptUpdates.Ending timeout 1 (replies 1)
          ((Reply.stdout (Apt.listCommand timeout) (replies 1)).bind (reading aptUpdates))
        cases replies 1 with
        | error cause => exact ending_failed rfl nofun
        | ok output => exact .read rfl (.succeeded output)

theorem ending_dryRun (options : Yum.Options) (reply : Reply) :
    (yumUpdates options).Ending timeout 1 reply
      ((Yum.transcript (Yum.dryRunCommand options timeout) reply).bind
        (reading (yumUpdates options))) := by
  cases reply with
  | ok output => exact .read rfl (.succeeded output)
  | error cause =>
      rw [Yum.transcript]
      split
      · rename_i hcode
        obtain ⟨output, rfl⟩ := CommandError.exitCode?_eq_some_iff.mp hcode
        exact .read rfl (.interpreted (.aborted options output) rfl)
      · rename_i hcode
        refine ending_failed rfl fun h => hcode ?_
        cases h
        rfl

theorem decidedBy_yumUpdates (options : Yum.Options) :
    ∃ n, (yumUpdates options).DecidedBy timeout replies n := by
  have h := transcript_yumUpdates timeout replies options
  cases hfirst : replies 0 with
  | ok output =>
      rw [hfirst] at h
      refine ⟨0, by rw [h]; rfl, nofun, ?_⟩
      rw [h, hfirst]
      exact .nothingPending rfl rfl output
  | error cause =>
      rw [hfirst, Yum.pending] at h
      by_cases hcode : cause.exitCode? = some Yum.updatesAvailable
      · rw [if_pos hcode] at h
        obtain ⟨output, rfl⟩ := CommandError.exitCode?_eq_some_iff.mp hcode
        refine ⟨1, by rw [h]; rfl, ?_, ?_⟩
        · intro k hk
          obtain rfl : k = 0 := by omega
          exact ⟨output, hfirst⟩
        · rw [h]
          exact ending_dryRun options (replies 1)
      · rw [if_neg hcode] at h
        refine ⟨0, by rw [h]; rfl, nofun, ?_⟩
        rw [h, hfirst]
        refine ending_failed rfl fun hpending => hcode ?_
        cases hpending
        rfl

/-- Whatever is asked and whatever the runners reply, one reply decides: its command is the last one
that is issued, and every reply before it let the question go on. Each command that is issued
carries the time bound of the question, and the answer says that a program is missing exactly if
that reply did. -/
theorem decided_by_first_ending_reply (q : Query) (timeout : Option Duration)
    (replies : Nat → Reply) :
    ∃ n, q.DecidedBy timeout replies n ∧
      (∀ c ∈ (q.transcript timeout replies).2, c.2.timeout = timeout) ∧
      ∀ e, (q.transcript timeout replies).1 = .error e →
        (e.isNotFound = true ↔ ∃ program, replies n = .error (.notFound program)) := by
  obtain ⟨n, h⟩ : ∃ n, q.DecidedBy timeout replies n := by
    cases q with
    | dpkgInstalled => exact ⟨0, decidedBy_of_single rfl nofun (transcript_dpkgInstalled ..)⟩
    | rpmInstalled => exact ⟨0, decidedBy_of_single rfl nofun (transcript_rpmInstalled ..)⟩
    | rpmFile path => exact ⟨0, decidedBy_of_single rfl nofun (transcript_rpmFile ..)⟩
    | aptUpdates => exact decidedBy_aptUpdates
    | yumUpdates options => exact decidedBy_yumUpdates options
  refine ⟨n, h, ?_, fun e he => h.ending.isNotFound_iff he⟩
  intro c hc
  rw [h.issued] at hc
  exact timeout_of_mem_plan (List.mem_of_mem_take hc)

end Query

end HostInventory
