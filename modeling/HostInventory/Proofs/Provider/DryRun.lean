import HostInventory.Process.Basic
import HostInventory.Proofs.Log.Session
import HostInventory.Provider.Yum

/-!
# How the dry run of yum may end

The dry run ends with status 1 after it has printed the transaction, so that a failure with status 1
is taken for a result. Whether a signal is kept apart from that status depends on what the streams
are attached to: pipes tell a killed process from one that ended by itself, a terminal reports
status 1 for both. Of the processes that end, the query therefore accepts those that ended by
themselves with status 0 or 1 and, over a terminal, the killed ones as well
(`dry_run_accepted_iff`); what a killed one has printed so far is reported as if it were all
(`killed_dry_run_accepted`).
-/

namespace HostInventory

/-! ## Waiting for processes -/

/-- Runs commands whose processes are known, their streams attached in one way. -/
def Attachment.runner (a : Attachment) (start : Command → Process) : Runner Session where
  run c := StateT.lift (c.await? none a (start c))

namespace Command

/-- Whether the time of a command is not over when so many nanoseconds have passed. -/
def Allows (c : Command) (nanos : Nat) : Prop :=
  ∀ timeout, c.timeout = some timeout → nanos < timeout.toNanos

variable {c : Command} {a : Attachment} {p : Process} {ending : Ending}

theorem await?_of_allows (h : p.fate = .ends ending) (ht : c.Allows p.nanos) :
    c.await? none a p = some (a.outcome ending (a.capture p.written (.ofNanos p.nanos))) := by
  cases hc : c.timeout with
  | none => simp [await?, interruption?, h, hc]
  | some timeout =>
      have hin : ¬ timeout.toNanos ≤ p.nanos := Nat.not_le.mpr (ht timeout hc)
      simp [await?, interruption?, h, hc, hin]

theorem await?_of_not_allows (h : p.fate = .ends ending) (ht : ¬ c.Allows p.nanos) :
    ∃ timeout, c.await? none a p = some (.error (.timeout timeout)) := by
  simp only [Allows, Classical.not_forall, Nat.not_lt] at ht
  obtain ⟨timeout, hc, hover⟩ := ht
  exact ⟨timeout, by simp [await?, interruption?, h, hc, hover]⟩

end Command

/-! ## What an ending is taken for -/

namespace Yum

/-- The endings after which what the dry run printed is taken for the transaction. -/
def Accepts (a : Attachment) (ending : Ending) : Prop :=
  ending = .exited 0 ∨ ending = .exited 1 ∨ a ≠ .pipes ∧ ∃ signal, ending = .killed signal

theorem transcript_exitStatus (c : Command) (code : Int) (output : CommandOutput) :
    transcript c (.error (.exitStatus code output)) =
      if code = 1 then .ok output.stdout
      else .error (.ofCommand c (.exitStatus code output)) := by
  simp [transcript, CommandError.exitCode?, CommandError.output?, dryRunAborted]

theorem transcript_of_accepts (c : Command) {a : Attachment} {ending : Ending}
    (h : Accepts a ending) (output : CommandOutput) :
    transcript c (a.outcome ending output) = .ok output.stdout := by
  rcases h with rfl | rfl | ⟨ha, signal, rfl⟩
  · rw [(a.outcome_eq_ok_iff (.exited 0) output output).mpr ⟨rfl, rfl⟩]
    rfl
  · cases a <;> rfl
  · cases a with
    | pipes => exact absurd rfl ha
    | terminal rows columns =>
        rw [Attachment.outcome_terminal_killed]
        rfl

theorem transcript_of_not_accepts (c : Command) {a : Attachment} {ending : Ending}
    (h : ¬ Accepts a ending) (output : CommandOutput) :
    ∃ e, a.outcome ending output = .error e ∧
      transcript c (a.outcome ending output) = .error (.ofCommand c e) := by
  simp only [Accepts, not_or, not_and, not_exists] at h
  obtain ⟨hzero, hone, hkilled⟩ := h
  cases ending with
  | exited status =>
      have hs : status ≠ 0 := fun hs => hzero (by rw [hs])
      have hcode : (status.toNat : Int) ≠ 1 := fun hs => hone (by
        rw [show status = 1 from UInt8.toNat.inj (Int.ofNat_inj.mp hs)])
      have houtcome : a.outcome (.exited status) output =
          .error (.exitStatus status.toNat output) := by
        cases a <;> simp [Attachment.outcome, hs]
      refine ⟨_, houtcome, ?_⟩
      rw [houtcome, transcript_exitStatus, if_neg hcode]
  | killed signal =>
      cases a with
      | pipes => exact ⟨_, Attachment.outcome_pipes_killed signal output, rfl⟩
      | terminal rows columns => exact absurd rfl (hkilled (by simp) signal)

/-! ## The query -/

variable {direct terminal : Runner Session} {options : Options} {timeout : Option Duration}
  {checked : CommandOutput} {reply : Except CommandError CommandOutput}

/-- When updates are pending, the reply to the dry run decides. -/
theorem updates_gives
    (hcheck : (direct.run (checkCommand timeout)).Gives
      (.error (.exitStatus updatesAvailable checked)))
    (hreply : (terminal.run (dryRunCommand options timeout)).Gives reply) :
    (updates direct terminal options timeout).Gives
      ((transcript (dryRunCommand options timeout) reply).map parseUpdates) := by
  refine hcheck.bind (Session.Gives.bind hreply ?_)
  cases transcript (dryRunCommand options timeout) reply with
  | error e => exact Session.gives_pure _
  | ok stdout => exact (Session.gives_report _).bind (Session.gives_pure _)

/-- What the query gives when updates are pending and the process of the dry run ends: the table
that was printed, if the process ended in time and in a way that is accepted, and otherwise an
error. Over pipes a killed process is an error that says so, without a status. -/
theorem dry_run_accepted_iff {a : Attachment} {start : Command → Process} {ending : Ending}
    (hcheck : (direct.run (checkCommand timeout)).Gives
      (.error (.exitStatus updatesAvailable checked)))
    (hends : (start (dryRunCommand options timeout)).fate = .ends ending) :
    let dryRun := dryRunCommand options timeout
    let output := a.capture (start dryRun).written (.ofNanos (start dryRun).nanos)
    ∃ result, (updates direct (a.runner start) options timeout).Gives result ∧
      (result.isOk = true ↔ dryRun.Allows (start dryRun).nanos ∧ Accepts a ending) ∧
      (∀ packages, result = .ok packages → packages = parseUpdates output.stdout) ∧
      ∀ signal, ending = .killed signal → a = .pipes → dryRun.Allows (start dryRun).nanos →
        result = .error (.ofCommand dryRun (.terminated output)) ∧
          (CommandError.terminated output).exitCode? = none := by
  intro dryRun output
  by_cases hin : dryRun.Allows (start dryRun).nanos
  · have hreply : ((a.runner start).run dryRun).Gives (a.outcome ending output) :=
      Session.gives_lift (Command.await?_of_allows hends hin)
    refine ⟨_, updates_gives hcheck hreply, ?_⟩
    by_cases haccepts : Accepts a ending
    · rw [transcript_of_accepts dryRun haccepts]
      refine ⟨by simp [Except.map, Except.isOk, Except.toBool, hin, haccepts], ?_, ?_⟩
      · intro packages hpackages
        exact (Except.ok.inj hpackages).symm
      · rintro signal rfl rfl -
        -- pipes accept no killed process
        rcases haccepts with h | h | ⟨h, -⟩
        · cases h
        · cases h
        · exact absurd rfl h
    · obtain ⟨e, houtcome, htranscript⟩ := transcript_of_not_accepts dryRun haccepts output
      rw [htranscript]
      refine ⟨by simp [Except.map, Except.isOk, Except.toBool, haccepts], nofun, ?_⟩
      rintro signal rfl rfl -
      obtain rfl := Except.error.inj houtcome
      exact ⟨rfl, rfl⟩
  · obtain ⟨limit, hawait⟩ := Command.await?_of_not_allows (a := a) hends hin
    have hreply : ((a.runner start).run dryRun).Gives (.error (.timeout limit)) :=
      Session.gives_lift hawait
    refine ⟨_, updates_gives hcheck hreply, ?_, nofun, fun _ _ _ h => absurd h hin⟩
    simp [transcript, CommandError.exitCode?, Except.map, Except.isOk, Except.toBool, hin]

/-- Answers every command with a pending update. -/
def sampleCheck : Runner Session where
  run _ := pure (.error (.exitStatus updatesAvailable ⟨[], [], .ofNanos 0⟩))

/-- The life of a dry run that has printed a row of its table. -/
def sampleDryRun (ending : Ending) (_ : Command) : Process where
  written := [(.standard, Utf8.encode "Upgrading:\n bash x86_64 5.2-1 baseos 1.8M\n")]
  nanos := 5
  fate := .ends ending

theorem dry_run_accepted_iff_aborted :
    (sampleCheck.run (checkCommand none)).Gives
        (.error (.exitStatus updatesAvailable ⟨[], [], .ofNanos 0⟩)) ∧
      (sampleDryRun (.exited 1) (dryRunCommand ⟨false, false⟩ none)).fate = .ends (.exited 1) ∧
      ∃ result, (updates sampleCheck (Attachment.wideTerminal.runner (sampleDryRun (.exited 1)))
          ⟨false, false⟩ none).Gives result ∧
        result = .ok [.ofFields "bash" "x86_64" "5.2-1"] := by
  have hcheck : (sampleCheck.run (checkCommand none)).Gives
      (.error (.exitStatus updatesAvailable ⟨[], [], .ofNanos 0⟩)) := Session.gives_pure _
  have hends : (sampleDryRun (.exited 1) (dryRunCommand ⟨false, false⟩ none)).fate =
      .ends (.exited 1) := rfl
  obtain ⟨result, hgives, hok, hpackages, -⟩ :=
    dry_run_accepted_iff (a := .wideTerminal) hcheck hends
  refine ⟨hcheck, hends, result, hgives, ?_⟩
  cases result with
  | error e => cases hok.mpr ⟨nofun, .inr (.inl rfl)⟩
  | ok packages =>
      rw [hpackages packages rfl]
      rfl

/-- A killed dry run gives a result: over a terminal the signal arrives as status 1, and the row
that was printed before it counts as the whole table. -/
theorem killed_dry_run_accepted :
    Attachment.wideTerminal.outcome (.killed 9) ⟨[], [], .ofNanos 5⟩ =
        .error (.exitStatus 1 ⟨[], [], .ofNanos 5⟩) ∧
      Attachment.pipes.outcome (.killed 9) ⟨[], [], .ofNanos 5⟩ =
        .error (.terminated ⟨[], [], .ofNanos 5⟩) ∧
      (updates sampleCheck (Attachment.wideTerminal.runner (sampleDryRun (.killed 9)))
        ⟨false, false⟩ none).Gives (.ok [.ofFields "bash" "x86_64" "5.2-1"]) := by
  refine ⟨rfl, rfl, ?_⟩
  have hreply : ((Attachment.wideTerminal.runner (sampleDryRun (.killed 9))).run
      (dryRunCommand ⟨false, false⟩ none)).Gives (.error (.exitStatus 1
        (Attachment.wideTerminal.capture (sampleDryRun (.killed 9)
          (dryRunCommand ⟨false, false⟩ none)).written (.ofNanos 5)))) :=
    Session.gives_lift rfl
  exact updates_gives (Session.gives_pure _) hreply

end Yum

end HostInventory
