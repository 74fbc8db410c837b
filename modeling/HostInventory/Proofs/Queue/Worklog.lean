import HostInventory.Proofs.Queue.Accounting

/-!
# One worker, one task at a time, in order

The worklog of a run is its ledger together with what else is seen of the worker: how often one was
set to work, which tasks it took out of the buffer, after which it called the hook, and in which it
panicked. Everything is noted where it happens and nothing is read off the worker afterwards, so
that there is only one worker, that it has one task at a time, and that it calls the hook before it
turns to the next are facts about runs.

`Diligent` is the invariant: what was noted, with what the worker has in hand, comes to the same
list of tasks in each column.
-/

namespace HostInventory.Queue

/-- The task after which the worker is about to call the hook. -/
def Worker.completed? : Worker → Option Nat
  | completed task => some task
  | _ => none

/-- How many workers there are or were. -/
def Worker.count : Worker → Nat
  | absent => 0
  | _ => 1

/-- Whether a step sets a worker to work: a caller with a task takes the lock of a queue that was
brought none before. -/
def startsWorker (q : Queue) : Step → Bool
  | .lock caller =>
    match q.state, q.request? caller with
    | .created, some (.enqueue _) => true
    | _, _ => false
  | _ => false

/-- What is seen of the worker in a run, besides what becomes of the tasks. -/
structure Worklog extends Ledger where
  /-- How often a worker was set to work. -/
  spawned : Nat
  /-- Taken out of the buffer. -/
  received : List Nat
  /-- Tasks after which the hook was called, whether or not it panicked. -/
  hooked : List Nat
  /-- Tasks that panicked. -/
  broken : List Nat
deriving Repr, DecidableEq

namespace Worklog

def empty : Worklog :=
  { Ledger.empty with spawned := 0, received := [], hooked := [], broken := [] }

/-- The worklog after a step from a queue. -/
def note (w : Worklog) (q : Queue) (s : Step) : Worklog where
  toLedger := w.toLedger.note q s
  spawned := if q.startsWorker s then w.spawned + 1 else w.spawned
  received := if s = .receive then w.received ++ q.buffer.toList else w.received
  hooked :=
    if s = .hook ∨ s = .panic then w.hooked ++ q.worker.completed?.toList else w.hooked
  broken := if s = .panic then w.broken ++ q.worker.running?.toList else w.broken

/-- The tasks that were started and have come to no end. -/
def underWay (w : Worklog) : List Nat :=
  w.started.filter fun t => t ∉ w.completed ∧ t ∉ w.broken

/-- The tasks that came into the buffer, were not taken out and were not lost there. -/
def buffered (w : Worklog) : List Nat :=
  w.entered.filter fun t => t ∉ w.received ∧ t ∉ w.lost

/-- Of a list that is done with but for one task at most, one task at most is left. -/
theorem length_filter_le_one {xs done gone : List Nat} {left : Option Nat}
    (h : xs = done ++ (left.toList ++ gone)) :
    (xs.filter fun t => t ∉ done ∧ t ∉ gone).length ≤ 1 := by
  have hdone : done.filter (fun t => t ∉ done ∧ t ∉ gone) = [] :=
    List.filter_eq_nil_iff.mpr fun t ht => by simp [ht]
  have hgone : gone.filter (fun t => t ∉ done ∧ t ∉ gone) = [] :=
    List.filter_eq_nil_iff.mpr fun t ht => by simp [ht]
  rw [h, List.filter_append, List.filter_append, hdone, hgone, List.nil_append, List.append_nil]
  exact Nat.le_trans (List.length_filter_le _ _) (by cases left <;> simp)

end Worklog

/-- The worklog of a run from a queue. -/
def worklog (q : Queue) (steps : List Step) : Worklog :=
  tally Worklog.note Worklog.empty q steps

theorem toLedger_worklog (q : Queue) (steps : List Step) :
    (q.worklog steps).toLedger = q.ledger steps := by
  rw [ledger, Ledger.noteAll_eq_tally]
  exact tally_map (f := Worklog.toLedger) (fun _ _ _ => rfl) Worklog.empty q steps

/-! ## What the worker has in hand -/

/-- The worklog fits the worker of a queue with a hook, or without one. -/
structure Diligent (hooked : Bool) (worker : Worker) (w : Worklog) : Prop where
  spawned : w.spawned = worker.count
  received : w.received = w.started ++ worker.taken?.toList
  ended : w.started = w.completed ++ (worker.running?.toList ++ w.broken)
  unbroken : worker ≠ .panicked → w.broken = []
  called : hooked = true → w.completed = w.hooked ++ worker.completed?.toList
  unhooked : hooked = false → w.hooked = [] ∧ worker.completed? = none

theorem diligent_empty (hooked : Bool) : Diligent hooked .absent Worklog.empty :=
  ⟨rfl, rfl, rfl, fun _ => rfl, fun _ => rfl, fun _ => ⟨rfl, rfl⟩⟩

/-- Only a caller that brings the first task sets a worker to work. -/
theorem startsWorker_eq_false {q : Queue} {s : Step}
    (h : q.state ≠ .created ∨ ∀ i name, s = .lock i → q.request? i ≠ some (.enqueue name)) :
    q.startsWorker s = false := by
  unfold startsWorker
  split
  · rename_i i
    split
    · rename_i name hq hr
      rcases h with h | h
      · exact absurd hq h
      · exact absurd hr (h i name rfl)
    · rfl
  · rfl

namespace Diligent

variable {hooked : Bool} {q : Queue} {w : Worklog}

/-- Nothing is noted of a caller that sets nobody to work, but that a task may come in. -/
theorem aside (h : Diligent hooked q.worker w) {s : Step} (hs : s.ofWorker = false)
    (hstart : q.startsWorker s = false) : Diligent hooked q.worker (w.note q s) := by
  have hledger : (w.note q s).started = w.started ∧ (w.note q s).completed = w.completed := by
    cases s with
    | send i =>
        simp only [Worklog.note, Ledger.note]
        split <;> exact ⟨rfl, rfl⟩
    | call _
    | drop _
    | lock _
    | answer _ => exact ⟨rfl, rfl⟩
    | receive
    | start
    | complete
    | hook
    | panic
    | exit => cases hs
  have hworklog : (w.note q s).spawned = w.spawned ∧ (w.note q s).received = w.received ∧
      (w.note q s).hooked = w.hooked ∧ (w.note q s).broken = w.broken := by
    have hne : s ≠ .receive ∧ s ≠ .hook ∧ s ≠ .panic := by
      refine ⟨?_, ?_, ?_⟩ <;> rintro rfl <;> cases hs
    simp [Worklog.note, hstart, hne]
  obtain ⟨hstarted, hcompleted⟩ := hledger
  obtain ⟨hspawned, hreceived, hhooked, hbroken⟩ := hworklog
  refine ⟨?_, ?_, ?_, ?_, ?_, ?_⟩
  · rw [hspawned, h.spawned]
  · rw [hreceived, hstarted, h.received]
  · rw [hstarted, hcompleted, hbroken, h.ended]
  · rw [hbroken]
    exact h.unbroken
  · rw [hcompleted, hhooked]
    exact h.called
  · rw [hhooked]
    exact h.unhooked

theorem spawn (h : Diligent hooked .absent w) {i : Nat} (hstart : q.startsWorker (.lock i) = true) :
    Diligent hooked .idle (w.note q (.lock i)) := by
  refine ⟨?_, h.received, h.ended, fun _ => h.unbroken nofun, h.called, h.unhooked⟩
  simp [Worklog.note, hstart, h.spawned, Worker.count]

theorem receive (h : Diligent hooked .idle w) {t : Nat} (hb : q.buffer = some t) :
    Diligent hooked (.taken t) (w.note q .receive) := by
  refine ⟨h.spawned, ?_, h.ended, fun _ => h.unbroken nofun, h.called, h.unhooked⟩
  have hreceived : w.received = w.started := h.received.trans (List.append_nil _)
  simp [Worklog.note, Ledger.note, hb, hreceived, Worker.taken?]

theorem start {t : Nat} (h : Diligent hooked (.taken t) w) (hw : q.worker = .taken t) :
    Diligent hooked (.running t) (w.note q .start) := by
  have hbroken := h.unbroken nofun
  have hended : w.started = w.completed := by simpa [hbroken, Worker.running?] using h.ended
  refine ⟨h.spawned, ?_, ?_, fun _ => hbroken, h.called, h.unhooked⟩
  · simp [Worklog.note, Ledger.note, hw, h.received, Worker.taken?]
  · simp [Worklog.note, Ledger.note, hw, hbroken, hended, Worker.taken?, Worker.running?]

theorem complete {t : Nat} (h : Diligent hooked (.running t) w) (hw : q.worker = .running t) :
    Diligent hooked (if hooked then .completed t else .idle) (w.note q .complete) := by
  have hbroken := h.unbroken (by simp)
  have hended : w.started = w.completed ++ [t] := by
    simpa [hbroken, Worker.running?] using h.ended
  have hreceived : w.received = w.started := h.received.trans (List.append_nil _)
  cases hooked with
  | true =>
      have hhooked : w.completed = w.hooked := (h.called rfl).trans (List.append_nil _)
      refine ⟨h.spawned, ?_, ?_, fun _ => hbroken, fun _ => ?_, by simp⟩
      · simp [Worklog.note, Ledger.note, hreceived, Worker.taken?]
      · simp [Worklog.note, Ledger.note, hw, hended, hbroken, Worker.running?]
      · simp [Worklog.note, Ledger.note, hw, hhooked, Worker.running?, Worker.completed?]
  | false =>
      refine ⟨h.spawned, ?_, ?_, fun _ => hbroken, by simp, h.unhooked⟩
      · simp [Worklog.note, Ledger.note, hreceived, Worker.taken?]
      · simp [Worklog.note, Ledger.note, hw, hended, hbroken, Worker.running?]

theorem hook {t : Nat} (h : Diligent hooked (.completed t) w) (hw : q.worker = .completed t) :
    Diligent hooked .idle (w.note q .hook) := by
  refine ⟨h.spawned, h.received, h.ended, fun _ => h.unbroken nofun, fun hh => ?_, fun hh => ?_⟩
  · simp [Worklog.note, Ledger.note, hw, h.called hh, Worker.completed?]
  · cases (h.unhooked hh).2

/-- A worker that panics leaves a task broken, or has called the hook after one. -/
theorem panic {t : Nat} (h : Diligent hooked q.worker w)
    (hw : q.worker = .running t ∨ q.worker = .completed t) :
    Diligent hooked .panicked (w.note q .panic) := by
  have hbroken := h.unbroken (by rcases hw with hw | hw <;> simp [hw])
  rcases hw with hw | hw <;> rw [hw] at h
  · refine ⟨h.spawned, h.received, ?_, nofun, fun hh => ?_, fun hh => ⟨?_, rfl⟩⟩
    · simpa [Worklog.note, Ledger.note, hw, hbroken, Worker.running?] using h.ended
    · simpa [Worklog.note, Ledger.note, hw, Worker.completed?] using h.called hh
    · simp [Worklog.note, hw, (h.unhooked hh).1, Worker.completed?]
  · refine ⟨h.spawned, h.received, ?_, nofun, fun hh => ?_, fun hh => ?_⟩
    · simpa [Worklog.note, Ledger.note, hw, hbroken, Worker.running?] using h.ended
    · simpa [Worklog.note, Ledger.note, hw, Worker.completed?] using h.called hh
    · cases (h.unhooked hh).2

theorem exit (h : Diligent hooked .idle w) : Diligent hooked .exited (w.note q .exit) :=
  ⟨h.spawned, h.received, h.ended, fun _ => h.unbroken nofun, h.called, h.unhooked⟩

theorem step {q' : Queue} (h : Diligent q.hooked q.worker w) (ho : Orderly q) {s : Step}
    (ht : Transition q q' s) : Diligent q.hooked q'.worker (w.note q s) := by
  cases ht with
  | call _ hto
  | drop _ _ hto
  | refuse _ _ _ hto
  | send _ _ _ _ hto
  | accept _ _ hto
  | giveUp _ _ hto
  | finish _ _ _ hto =>
      rw [hto.worker]
      exact h.aside rfl rfl
  | enter _ _ _ hq hto
  | turnAway _ _ _ hq hto
  | close _ _ _ hq hto =>
      rw [hto.worker]
      exact h.aside rfl (startsWorker_eq_false (.inl (by simp [hq])))
  | closeIdle hr _ _ _ hto =>
      rw [hto.worker]
      refine h.aside rfl (startsWorker_eq_false (.inr fun i name hi => ?_))
      obtain rfl := Step.lock.inj hi
      simp [hr]
  | enterFirst hr _ _ hq hto =>
      rw [ho.created hq] at h
      rw [hto.worker]
      exact h.spawn (by simp [startsWorker, hq, hr])
  | receive hw hb hto =>
      rw [hw] at h
      rw [hto.worker]
      exact h.receive hb
  | start hw hto =>
      rw [hw] at h
      rw [hto.worker]
      exact h.start hw
  | complete hw hto =>
      rw [hw] at h
      rw [hto.worker]
      exact h.complete hw
  | hook hw hto =>
      rw [hw] at h
      rw [hto.worker]
      exact h.hook hw
  | panic hw _ hto
  | panicLosing hw _ hto =>
      rw [hto.worker]
      exact h.panic hw
  | exit hw _ _ hto =>
      rw [hw] at h
      rw [hto.worker]
      exact h.exit

end Diligent

theorem Worker.completed?_eq_some_iff {worker : Worker} {t : Nat} :
    worker.completed? = some t ↔ worker = .completed t := by
  cases worker <;> simp [Worker.completed?]

/-- The worklog of every run fits the worker that the run led to. -/
theorem diligent_of_run? {hooked : Bool} {steps : List Step} {q : Queue}
    (h : (fresh hooked).run? steps = some q) :
    Diligent hooked q.worker ((fresh hooked).worklog steps) := by
  have hrun : q.hooked = hooked ∧ Orderly q ∧
      Diligent hooked q.worker ((fresh hooked).worklog steps) :=
    tally_induction (P := fun r w => r.hooked = hooked ∧ Orderly r ∧ Diligent hooked r.worker w)
      (fun {r r' w s} hp hs => ?_) ⟨rfl, orderly_fresh hooked, diligent_empty hooked⟩ h
  · exact hrun.2.2
  · obtain ⟨hhooked, ho, hd⟩ := hp
    have ht := transition_of_step? hs
    subst hhooked
    exact ⟨hooked_of_step? hs, ho.step ht, hd.step ho ht⟩

/-! ## One at a time -/

namespace Diligent

variable {hooked : Bool} {worker : Worker} {w : Worklog}

theorem spawned_le_one (h : Diligent hooked worker w) : w.spawned ≤ 1 := by
  rw [h.spawned]
  cases worker <;> simp [Worker.count]

theorem length_underWay_le_one (h : Diligent hooked worker w) : w.underWay.length ≤ 1 :=
  Worklog.length_filter_le_one h.ended

/-- What the worker has taken out of the buffer it has started or is about to. -/
theorem length_buffered_le_one {buffer : Option Nat} (h : Diligent hooked worker w)
    (hf : Flow worker buffer w.toLedger) : w.buffered.length ≤ 1 := by
  have hentered : w.entered = w.received ++ (buffer.toList ++ w.lost) := by
    rw [hf.order, h.received, List.append_assoc]
  exact Worklog.length_filter_le_one hentered

/-- A worker that is about to start a task is done with all that it started before. -/
theorem done_of_taken {t : Nat} (h : Diligent hooked (.taken t) w) :
    w.started = w.completed ∧ (hooked = true → w.hooked = w.completed) := by
  refine ⟨?_, fun hh => ?_⟩
  · simpa [h.unbroken nofun, Worker.running?] using h.ended
  · simpa [Worker.completed?] using (h.called hh).symm

end Diligent

/-- However callers and worker are interleaved, and wherever callers are dropped: there never is a
second worker; one task at most is running and one at most stands in the buffer; the tasks are
started in the order in which they came into the buffer, and before a task is started all that were
started before are completed and the hook was called after each of them. With a hook, it was called
as often as a task was completed, or once less while the worker is about to call it. -/
theorem one_worker_in_order {hooked : Bool} {steps : List Step} {q : Queue}
    (h : (fresh hooked).run? steps = some q) :
    let w := (fresh hooked).worklog steps
    w.spawned ≤ 1 ∧ w.underWay.length ≤ 1 ∧ w.buffered.length ≤ 1 ∧ w.started <+: w.entered ∧
      (∀ before after, steps = before ++ .start :: after →
        ((fresh hooked).worklog before).started = ((fresh hooked).worklog before).completed ∧
          (hooked = true → ((fresh hooked).worklog before).hooked =
            ((fresh hooked).worklog before).completed)) ∧
      (hooked = true →
        ((∀ t, q.worker ≠ .completed t) ∧ w.hooked.length = w.completed.length) ∨
          ∃ t, q.worker = .completed t ∧ w.hooked.length + 1 = w.completed.length) := by
  intro w
  have hd : Diligent hooked q.worker w := diligent_of_run? h
  have hf : Flow q.worker q.buffer w.toLedger := by
    rw [show w.toLedger = _ from toLedger_worklog _ steps]
    exact (accounted_of_run? h).flow
  refine ⟨hd.spawned_le_one, hd.length_underWay_le_one, hd.length_buffered_le_one hf,
    hf.order ▸ List.prefix_append _ _, fun before after hsplit => ?_, fun hh => ?_⟩
  · obtain ⟨m, hm, ha⟩ := run?_split (hsplit ▸ h)
    obtain ⟨m', hs, -⟩ := run?_cons ha
    cases transition_of_step? hs with
    | start hw _ => exact (hw ▸ diligent_of_run? hm).done_of_taken
  · have hcalled := congrArg List.length (hd.called hh)
    rw [List.length_append] at hcalled
    cases hc : q.worker.completed? with
    | none =>
        refine .inl ⟨fun t ht => ?_, by simpa [hc] using hcalled.symm⟩
        rw [Worker.completed?_eq_some_iff.mpr ht] at hc
        cases hc
    | some t =>
        refine .inr ⟨t, Worker.completed?_eq_some_iff.mp hc, ?_⟩
        simpa [hc] using hcalled.symm

/-- A task whose caller was dropped and another one behind it are run by the one worker, in their
order; the hook was called after the first and is about to be called after the second. -/
theorem one_worker_in_order_orphan : ∃ steps q, (fresh true).run? steps = some q ∧
    q.stage? 0 = some .dropped ∧ q.worker = .completed 1 ∧
    ((fresh true).worklog steps).entered = [0, 1] ∧
    ((fresh true).worklog steps).spawned ≤ 1 ∧
    ((fresh true).worklog steps).started <+: ((fresh true).worklog steps).entered ∧
    ((fresh true).worklog steps).hooked.length + 1 =
      ((fresh true).worklog steps).completed.length := by
  have hrun : (fresh true).run? [.call (.enqueue "orphan"), .lock 0, .send 0, .drop 0,
      .call (.enqueue "second"), .lock 1, .receive, .send 1, .start, .complete, .hook, .receive,
      .start, .complete] = some ⟨.running, some 1, none, .completed 1, true,
        [⟨.enqueue "orphan", .dropped⟩, ⟨.enqueue "second", .confirming .given⟩]⟩ := rfl
  obtain ⟨hspawned, -, -, horder, -, hcalls⟩ := one_worker_in_order hrun
  refine ⟨_, _, hrun, rfl, rfl, rfl, hspawned, horder, ?_⟩
  rcases hcalls rfl with ⟨hne, -⟩ | ⟨_, -, hlength⟩
  · exact absurd rfl (hne 1)
  · exact hlength

end HostInventory.Queue
