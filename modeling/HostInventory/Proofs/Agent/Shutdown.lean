import HostInventory.Proofs.Agent.Calls

/-!
# The agent's loop shuts down cleanly

The signal to stop may arrive at any moment, and the loop may see it while the pass that it brings
still waits for the lock, for room in the buffer or for the worker. The pass is then let go, and if
it stands in the buffer it has no owner any more. It is run all the same: closing the queue waits
for it (`shuts_down_cleanly`).

A pass begins when the worker takes it. Taking, confirming and starting a pass are one piece of the
worker's work in which it waits for nothing; only the confirmation in the middle of it can be seen
from outside, so the loop may be told of a pass, and even bring the next one, before the worker has
come to the first line of that pass. The passes begun are those started and the one in the worker's
hand (`Ledger.begun`). Of passes begun, one at most is new after the signal has been seen; of passes
started there can be two (`two_started_after_signal`).
-/

namespace HostInventory

namespace Queue

/-- The tasks that the worker has begun with: those it has started, and the one that it has taken
and starts before it does anything else. -/
def Ledger.begun (l : Ledger) (worker : Worker) : List Nat :=
  l.started ++ worker.taken?.toList

variable {q q' : Queue}

theorem Flow.length_entered {worker : Worker} {buffer : Option Nat} {l : Ledger}
    (h : Flow worker buffer l) :
    l.entered.length = (l.begun worker).length + buffer.toList.length + l.lost.length := by
  simp only [h.order, Ledger.begun, List.length_append]
  omega

/-- The worker does not put back what it has begun with. -/
theorem begun_step (ho : Orderly q) (l : Ledger) {s : Step} (ht : Transition q q' s) :
    l.begun q.worker <+: (l.note q s).begun q'.worker := by
  have hsame : ∀ {worker : Worker}, q'.worker = worker → worker.taken? = q.worker.taken? →
      (l.note q s).started = l.started → l.begun q.worker <+: (l.note q s).begun q'.worker := by
    intro worker hw htaken hstarted
    have heq : (l.note q s).begun q'.worker = l.begun q.worker := by
      rw [Ledger.begun, Ledger.begun, hw, htaken, hstarted]
    exact ⟨[], by rw [heq, List.append_nil]⟩
  cases ht with
  | start hw hto =>
      rw [Ledger.begun, Ledger.begun, hto.worker]
      simp only [Ledger.note]
      exact List.prefix_append _ _
  | receive hw _ hto =>
      rw [Ledger.begun, Ledger.begun, hw]
      exact (List.append_nil l.started).symm ▸ List.prefix_append _ _
  | call _ hto
  | drop _ _ hto
  | enter _ _ _ _ hto
  | turnAway _ _ _ _ hto
  | close _ _ _ _ hto
  | closeIdle _ _ _ _ hto
  | accept _ _ hto
  | giveUp _ _ hto
  | finish _ _ _ hto => exact hsame hto.worker rfl rfl
  | refuse _ _ _ hto
  | send _ _ _ _ hto => exact hsame hto.worker rfl (l.started_note_of_ne q (by simp))
  | enterFirst _ _ _ hq hto => exact hsame hto.worker (by rw [ho.created hq]; rfl) rfl
  | complete hw hto =>
      refine hsame hto.worker ?_ rfl
      rw [hw]
      split <;> rfl
  | hook hw hto => exact hsame hto.worker (by rw [hw]; rfl) rfl
  | panic hw _ hto
  | panicLosing hw _ hto => exact hsame hto.worker (Worker.taken?_of_busy hw).symm rfl
  | exit hw _ _ hto => exact hsame hto.worker (by rw [hw]; rfl) rfl

theorem begun_run {l : Ledger} {steps : List Step} (ho : Orderly q)
    (h : q.run? steps = some q') : l.begun q.worker <+: (l.noteAll q steps).begun q'.worker :=
  (run_induction (P := fun r l' => Orderly r ∧ l.begun q.worker <+: l'.begun r.worker)
    (fun {_ _ l' _} hp ht => ⟨hp.1.step ht, hp.2.trans (begun_step hp.1 l' ht)⟩)
    ⟨ho, List.prefix_refl _⟩ h).2

/-- As long as no task comes into the buffer, the worker begins with at most one more: the one that
stands there. -/
theorem begun_of_entered_eq {l : Ledger} {steps : List Step} (hq : Accounted q l)
    (h : q.run? steps = some q') (hentered : (l.noteAll q steps).entered = l.entered) :
    ∃ late : List Nat, late.length ≤ 1 ∧
      (l.noteAll q steps).begun q'.worker = l.begun q.worker ++ late := by
  obtain ⟨late, hlate⟩ := begun_run (l := l) hq.orderly h
  refine ⟨late, ?_, hlate.symm⟩
  have hq' : Accounted q' (l.noteAll q steps) :=
    run_induction (P := Accounted) (fun hp ht => hp.step ht) hq h
  have hbefore := hq.flow.length_entered
  have hafter := hq'.flow.length_entered
  have hlost := (l.lost_prefix_noteAll h).length_le
  have hbuffer : q.buffer.toList.length ≤ 1 := by cases q.buffer <;> simp
  rw [hentered, ← hlate, List.length_append] at hafter
  omega

end Queue

namespace AgentLoop

open Queue (Ledger)

/-- What has become of the passes when the loop has made steps, beginning with a queue and what had
become of the tasks of that queue in its history. -/
def passes (hooked : Bool) (history : List Queue.Step) (q : Queue) (steps : List Step) : Ledger :=
  ((Queue.fresh hooked).ledger history).noteAll q ((start q).trace steps)

section

variable {hooked : Bool} {history : List Queue.Step} {q : Queue} {steps : List Step}
  {l : AgentLoop}

theorem passes_eq_ledger (hq : (Queue.fresh hooked).run? history = some q) :
    passes hooked history q steps =
      (Queue.fresh hooked).ledger (history ++ (start q).trace steps) :=
  (Queue.ledger_append hq).symm

theorem run?_history (hq : (Queue.fresh hooked).run? history = some q)
    (h : (start q).run? steps = some l) :
    (Queue.fresh hooked).run? (history ++ (start q).trace steps) = some l.queue :=
  Queue.run?_append hq (run?_trace h)

theorem accounted_passes (hq : (Queue.fresh hooked).run? history = some q)
    (h : (start q).run? steps = some l) :
    Queue.Accounted l.queue (passes hooked history q steps) := by
  rw [passes_eq_ledger hq]
  exact Queue.accounted_of_run? (run?_history hq h)

/-- When a pass starts, every pass that was started before has come to its end. -/
theorem completed_of_start {before after : List Step}
    (hq : (Queue.fresh hooked).run? history = some q)
    (h : (start q).run? (before ++ .queue .start :: after) = some l) :
    (passes hooked history q before).started = (passes hooked history q before).completed := by
  obtain ⟨m, hb, ha⟩ := run?_split h
  obtain ⟨m', hs, -⟩ := run?_cons ha
  have hflow := (accounted_passes hq hb).flow
  cases turn_of_step? hs with
  | queue _ hstart _ =>
      cases Queue.transition_of_step? hstart with
      | start hw _ =>
          rw [hw] at hflow
          exact (hflow.done nofun).trans (List.append_nil _)

/-- After the loop has seen the signal, the worker begins with at most one pass more. -/
theorem begun_of_observe {before after : List Step} {m : AgentLoop}
    (hq : (Queue.fresh hooked).run? history = some q) (hidle : q.Idle)
    (hb : (start q).run? before = some m)
    (h : (start q).run? (before ++ .observe :: after) = some l) :
    ∃ late : List Nat, late.length ≤ 1 ∧
      (passes hooked history q (before ++ .observe :: after)).begun l.queue.worker =
        (passes hooked history q before).begun m.queue.worker ++ late := by
  obtain ⟨m', hm', ha⟩ := run?_split h
  obtain rfl := Option.some.inj (hb.symm.trans hm')
  obtain ⟨r, hs, hr⟩ := run?_cons ha
  have ht := turn_of_step? hs
  have hcoherent := (coherent_start hidle).run hb
  have hpasses : passes hooked history q (before ++ .observe :: after) =
      (passes hooked history q before).noteAll m.queue (m.trace (.observe :: after)) := by
    rw [passes, trace_append _ hb]
    exact Ledger.noteAll_append (run?_trace hb) _
  obtain ⟨hclosing, hentered⟩ := entered_observe ht (passes hooked history q before)
  rw [hpasses]
  refine Queue.begun_of_entered_eq (accounted_passes hq hb) (run?_trace ha) ?_
  simp only [trace, hs]
  rw [Ledger.noteAll_append (run?_onQueue ht), entered_run (hcoherent.step ht) hclosing _ hr,
    hentered]

/-- A loop that has stopped leaves a queue at rest. -/
theorem atRest_of_stopped (hq : (Queue.fresh hooked).run? history = some q) (hidle : q.Idle)
    (h : (start q).run? steps = some l) (hp : l.position = .stopped) : Queue.AtRest l.queue := by
  have hcoherent := (coherent_start hidle).run h
  obtain ⟨i, hr, ha⟩ := hcoherent.stopped hp
  have hclosing := Queue.closing_of_run? (run?_history hq h)
  exact (hclosing.returned hr (Queue.answer?_eq_some_iff.mp ha)).resolve_right hcoherent.kept

end

/-- However ticks, worker and signal are interleaved, and whatever comes of the passes: when a pass
starts, all that started before it have come to their ends; after the loop has seen the signal the
worker begins with at most one pass more, so at most one starts besides the one that it may have
taken before and not started; and when the loop has stopped, the queue is closed, no worker goes on,
and every pass that came into the buffer, whether or not the loop waited for it until the end, has
run to its end unless a panic ended the worker. -/
theorem shuts_down_cleanly {hooked : Bool} {history : List Queue.Step} {q : Queue}
    {steps : List Step} {l : AgentLoop} (hq : (Queue.fresh hooked).run? history = some q)
    (hidle : q.Idle) (h : (start q).run? steps = some l) :
    (∀ before after, steps = before ++ .queue .start :: after →
        (passes hooked history q before).started = (passes hooked history q before).completed) ∧
      (∀ before after m, steps = before ++ .observe :: after → (start q).run? before = some m →
        (∃ late : List Nat, late.length ≤ 1 ∧
          (passes hooked history q steps).begun l.queue.worker =
            (passes hooked history q before).begun m.queue.worker ++ late) ∧
          (passes hooked history q steps).started.length ≤
            (passes hooked history q before).started.length +
              m.queue.worker.taken?.toList.length + 1) ∧
      (l.position = .stopped →
        l.queue.state = .closed ∧
          (l.queue.worker = .absent ∨ l.queue.worker.hasEnded = true) ∧
          ((l.queue.worker = .panicked ∧ .panic ∈ history ++ (start q).trace steps) ∨
            (passes hooked history q steps).completed =
              (passes hooked history q steps).entered)) := by
  refine ⟨?_, ?_, fun hp => ?_⟩
  · rintro before after rfl
    exact completed_of_start hq h
  · rintro before after m rfl hb
    obtain ⟨late, hlate, hbegun⟩ := begun_of_observe hq hidle hb h
    refine ⟨⟨late, hlate, hbegun⟩, ?_⟩
    have hlength := congrArg List.length hbegun
    simp only [Ledger.begun, List.length_append] at hlength
    omega
  · have hrest := atRest_of_stopped hq hidle h hp
    have hflow := (accounted_passes hq h).flow
    rcases Queue.Worker.isGone_iff.mp hrest.gone with hw | hw | hw
    · exact ⟨hrest.closed, .inl hw, .inr (hflow.completed_eq (.inl hw))⟩
    · exact ⟨hrest.closed, .inr (by rw [hw]; rfl), .inr (hflow.completed_eq (.inr hw))⟩
    · refine ⟨hrest.closed, .inr (by rw [hw]; rfl), .inl ⟨hw, ?_⟩⟩
      exact Queue.panic_mem (by simp [Queue.fresh]) (run?_history hq h) hw

/-- The loop begins while an earlier pass still runs, and sees the signal when its own pass stands
in the buffer. The pass is let go there, begun and completed before the loop has stopped. -/
theorem shuts_down_cleanly_orphan : ∃ history q before after l,
    (Queue.fresh true).run? history = some q ∧ q.Idle ∧ q.worker = .running 0 ∧
      (start q).run? (before ++ .observe :: after) = some l ∧ l.position = .stopped ∧
      l.queue.stage? 1 = some .dropped ∧ l.queue.state = .closed ∧
      (passes true history q before).begun (.running 0) = [0] ∧
      (∃ late : List Nat, late.length ≤ 1 ∧
        (passes true history q (before ++ .observe :: after)).begun l.queue.worker = [0] ++ late) ∧
      (passes true history q (before ++ .observe :: after)).completed = [0, 1] := by
  have hhistory : (Queue.fresh true).run? [.call (.enqueue collectionTask), .lock 0, .send 0,
      .receive, .start, .answer 0] = some ⟨.running, none, none, .running 0, true,
        [⟨.enqueue collectionTask, .returned .accepted⟩]⟩ := rfl
  have hidle : Queue.Idle ⟨.running, none, none, .running 0, true,
      [⟨.enqueue collectionTask, .returned .accepted⟩]⟩ := by
    constructor
    · rintro (_ | i) s hs -
      · obtain rfl := Option.some.inj hs
        rfl
      · cases hs
    · rintro ⟨_ | i, hr, -⟩ <;> cases hr
  have hbefore : (start ⟨.running, none, none, .running 0, true,
      [⟨.enqueue collectionTask, .returned .accepted⟩]⟩).run?
        [.tick, .queue (.lock 1), .queue (.send 1), .signal] = some ⟨⟨.running, some 1, some 1,
          .running 0, true, [⟨.enqueue collectionTask, .returned .accepted⟩,
            ⟨.enqueue collectionTask, .confirming .pending⟩]⟩, .bringing 1, true⟩ := rfl
  have hrun : (start ⟨.running, none, none, .running 0, true,
      [⟨.enqueue collectionTask, .returned .accepted⟩]⟩).run?
        ([.tick, .queue (.lock 1), .queue (.send 1), .signal] ++ .observe :: [.queue (.lock 2),
          .queue .complete, .queue .hook, .queue .receive, .queue .start, .queue .complete,
          .queue .hook, .queue .exit, .queue (.answer 2), .finish]) = some ⟨⟨.closed, none, none,
            .exited, true, [⟨.enqueue collectionTask, .returned .accepted⟩,
              ⟨.enqueue collectionTask, .dropped⟩, ⟨.close, .returned .closed⟩]⟩,
            .stopped, true⟩ := rfl
  obtain ⟨-, hlate, hend⟩ := shuts_down_cleanly hhistory hidle hrun
  obtain ⟨hclosed, -, hcompleted⟩ := hend rfl
  exact ⟨_, _, _, _, _, hhistory, hidle, rfl, hrun, rfl, rfl, hclosed, rfl,
    (hlate _ _ _ rfl hbefore).1, hcompleted.resolve_left (fun hp => nomatch hp.1)⟩

/-- The worker has confirmed a pass and not come to its first line when the loop, which has brought
the next pass by then, sees the signal. Both passes start after that. -/
theorem two_started_after_signal : (Queue.fresh false).Idle ∧ ∃ before after m l,
    (start (Queue.fresh false)).run? before = some m ∧ m.queue.worker = .taken 1 ∧
      (start (Queue.fresh false)).run? (before ++ .observe :: after) = some l ∧
      l.position = .stopped ∧ l.queue.state = .closed ∧
      (passes false [] (Queue.fresh false) before).started = [0] ∧
      (passes false [] (Queue.fresh false) (before ++ .observe :: after)).started = [0, 1, 2] := by
  refine ⟨Queue.idle_fresh false,
    [.tick, .queue (.lock 0), .queue (.send 0), .queue .receive, .queue .start,
      .queue (.answer 0), .resume, .tick, .queue (.lock 1), .queue (.send 1), .queue .complete,
      .queue .receive, .queue (.answer 1), .resume, .tick, .queue (.lock 2), .queue (.send 2),
      .signal],
    [.queue .start, .queue (.lock 3), .queue .complete, .queue .receive, .queue .start,
      .queue .complete, .queue .exit, .queue (.answer 3), .finish],
    ⟨⟨.running, some 2, some 2, .taken 1, false, [⟨.enqueue collectionTask, .returned .accepted⟩,
      ⟨.enqueue collectionTask, .returned .accepted⟩,
      ⟨.enqueue collectionTask, .confirming .pending⟩]⟩, .bringing 2, true⟩,
    ⟨⟨.closed, none, none, .exited, false, [⟨.enqueue collectionTask, .returned .accepted⟩,
      ⟨.enqueue collectionTask, .returned .accepted⟩, ⟨.enqueue collectionTask, .dropped⟩,
      ⟨.close, .returned .closed⟩]⟩, .stopped, true⟩, rfl, rfl, rfl, rfl, rfl, rfl, rfl⟩

end AgentLoop

end HostInventory
