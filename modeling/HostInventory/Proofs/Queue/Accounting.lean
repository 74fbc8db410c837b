import HostInventory.Proofs.Queue.Accounts

/-!
# No task is lost or run twice

Callers and worker may be interleaved in any way, callers may be dropped wherever they wait, and
tasks may panic. Still every task is started at most once, a caller that is told that its task was
accepted can rely on it being started, and a caller that is told otherwise can rely on it never
being started, then or later (`tasks_accounted_for`).

The last part needs two facts together: an answer once given stays (`answer?_run?`), and in every
reachable queue a rejected task is out of the worker's reach (`Fits.rejected`).
-/

namespace HostInventory.Queue

/-! ## What the worker does next -/

def Step.ofWorker : Step → Bool
  | receive => true
  | start => true
  | complete => true
  | hook => true
  | panic => true
  | exit => true
  | _ => false

/-- While the worker has a task in hand, nobody can do anything about it but the worker, and the
worker can do nothing but start it. -/
theorem transition_of_taken {q q' : Queue} {s : Step} {t : Nat} (ho : Orderly q)
    (hw : q.worker = .taken t) (ht : Transition q q' s) :
    s = .start ∨ (s.ofWorker = false ∧ s ≠ .start ∧ q'.worker = .taken t) := by
  cases ht with
  | start _ _ => exact Or.inl rfl
  | call _ hto
  | drop _ _ hto
  | enter _ _ _ _ hto
  | turnAway _ _ _ _ hto
  | close _ _ _ _ hto
  | closeIdle _ _ _ _ hto
  | refuse _ _ _ hto
  | send _ _ _ _ hto
  | accept _ _ hto
  | giveUp _ _ hto
  | finish _ _ _ hto => exact Or.inr ⟨rfl, nofun, hto.worker.trans hw⟩
  | enterFirst _ _ _ hq _ =>
      have ha := ho.created hq
      rw [hw] at ha
      cases ha
  | receive hi _ _
  | complete hi _
  | hook hi _
  | exit hi _ _ _ =>
      rw [hw] at hi
      cases hi
  | panic hi _ _
  | panicLosing hi _ _ =>
      rw [hw] at hi
      rcases hi with hi | hi <;> cases hi

/-- A task that the worker has taken is what the worker deals with next, whoever else is at work
meanwhile: as long as the worker makes no step the task stays in its hand, and its next step starts
the task. -/
theorem started_next {q q' : Queue} {more : List Step} {l : Ledger} {t : Nat} (ho : Orderly q)
    (hw : q.worker = .taken t) (h : q.run? more = some q') :
    ((more.filter Step.ofWorker).head? = none ∧ q'.worker = .taken t) ∨
      ((more.filter Step.ofWorker).head? = some .start ∧
        l.started ++ [t] <+: (l.noteAll q more).started) := by
  induction more generalizing q l with
  | nil =>
      obtain rfl := Option.some.inj h
      exact Or.inl ⟨rfl, hw⟩
  | cons s rest ih =>
      obtain ⟨m, hs, hr⟩ := run?_cons h
      have ht := transition_of_step? hs
      simp only [Ledger.noteAll, hs]
      rcases transition_of_taken ho hw ht with rfl | ⟨hnot, hne, hw'⟩
      · refine Or.inr ⟨rfl, ?_⟩
        have hn : (l.note q .start).started = l.started ++ [t] := by
          simp [Ledger.note, hw, Worker.taken?]
        rw [← hn]
        exact (l.note q .start).started_prefix_noteAll hr
      · rw [List.filter_cons_of_neg (by simp [hnot]), ← l.started_note_of_ne q hne]
        exact ih (ho.step ht) hw' hr

/-! ## The account of every task -/

/-- In every run each task is started at most once. A task whose caller is told that it was
accepted has been started once, or the worker has it in hand, can start it, and makes no other step
before. A task whose caller is told that the queue is closed or the worker has ended is never
started. -/
theorem tasks_accounted_for {hooked : Bool} {steps : List Step} {q : Queue}
    (h : (fresh hooked).run? steps = some q) (t : Nat) :
    ((fresh hooked).ledger steps).started.count t ≤ 1 ∧
      (q.answer? t = some .accepted →
        ((fresh hooked).ledger steps).started.count t = 1 ∨
          (q.worker = .taken t ∧ (q.step? .start).isSome ∧ ∀ more q', q.run? more = some q' →
            ((more.filter Step.ofWorker).head? = none ∧ q'.worker = .taken t) ∨
              ((more.filter Step.ofWorker).head? = some .start ∧
                ((fresh hooked).ledger steps).started ++ [t] <+:
                  ((fresh hooked).ledger (steps ++ more)).started))) ∧
      ∀ e, q.answer? t = some (.rejected e) → ∀ more q', q.run? more = some q' →
        t ∉ ((fresh hooked).ledger (steps ++ more)).started := by
  have hq := accounted_of_run? h
  refine ⟨List.nodup_iff_count.mp hq.started_nodup t, fun ha => ?_,
    fun e he more q' hm hstarted => ?_⟩
  · rcases (hq.fits (answer?_eq_some_iff.mp ha)).given (.inr rfl) with hs | hw
    · exact Or.inl (hq.started_nodup.count.trans (if_pos hs))
    · refine Or.inr ⟨hw, by simp [step?, hw], fun more q' hm => ?_⟩
      rw [ledger_append h]
      exact started_next hq.orderly hw hm
  · have hq' := accounted_of_run? (run?_append h hm)
    have hs := answer?_eq_some_iff.mp (answer?_run? he hm)
    have hlost := (hq'.fits hs).rejected e rfl (hq'.started_subset hstarted)
    exact hq'.not_started_of_lost hlost hstarted

/-- A task goes down with the buffer when the task before it panics; its caller is told. -/
theorem tasks_accounted_for_lost : ∃ steps q, (fresh false).run? steps = some q ∧
    q.answer? 0 = some .accepted ∧ ((fresh false).ledger steps).started.count 0 = 1 ∧
    q.answer? 1 = some (.rejected (.workerStopped "second")) ∧
    ∀ more q', q.run? more = some q' →
      1 ∉ ((fresh false).ledger (steps ++ more)).started :=
  ⟨[.call (.enqueue "first"), .lock 0, .send 0, .receive, .answer 0, .start,
      .call (.enqueue "second"), .lock 1, .send 1, .panic, .answer 1],
    _, rfl, rfl, rfl, rfl, (tasks_accounted_for rfl 1).2.2 _ rfl⟩

end HostInventory.Queue
