import HostInventory.Proofs.Queue.Accounts

/-!
# Closing a queue is a barrier

Whoever closes a queue sets the state under the lock and keeps the lock until the worker has ended,
so nobody learns that the queue is closed, and nobody else finishes closing it, while the worker is
still at it. Only a closer that is dropped lets go of the lock too early (`Abandoned`).

`Closing` is the invariant: a closed queue has no worker that goes on, unless somebody waits for its
end. What a closer leaves behind when it returns is `AtRest`, and a queue at rest stays at rest.
-/

namespace HostInventory.Queue

/-- Whether a worker was never there or has ended. -/
def Worker.isGone : Worker → Bool
  | absent => true
  | exited => true
  | panicked => true
  | _ => false

/-- The queue is closed, nobody holds the lock, and no worker goes on. -/
structure AtRest (q : Queue) : Prop where
  closed : q.state = .closed
  free : q.holder = none
  gone : q.worker.isGone = true

/-- Somebody who was to close the queue was dropped. -/
def Abandoned (q : Queue) : Prop :=
  ∃ i, q.request? i = some .close ∧ q.stage? i = some .dropped

theorem Worker.isGone_iff {w : Worker} :
    w.isGone = true ↔ w = .absent ∨ w = .exited ∨ w = .panicked := by
  cases w <;> simp [isGone]

theorem Worker.isGone_of_hasEnded {w : Worker} (h : w.hasEnded = true) : w.isGone = true := by
  cases w <;> first | rfl | cases h

/-! ## A queue at rest -/

namespace AtRest

variable {q q' : Queue}

theorem worker_ne (h : AtRest q) {w : Worker} (hw : w.isGone = false) : q.worker ≠ w := by
  rintro rfl
  have hg := h.gone
  rw [hw] at hg
  cases hg

theorem step (h : AtRest q) {s : Step} (ht : Transition q q' s) : AtRest q' := by
  have hc := closed_step h.closed ht
  cases ht with
  | call _ hto
  | send _ _ _ _ hto =>
      exact ⟨hc, hto.holder.trans h.free, hto.worker ▸ h.gone⟩
  | drop _ _ hto =>
      refine ⟨hc, hto.holder.trans ?_, hto.worker ▸ h.gone⟩
      rw [h.free, ite_self]
  | enterFirst _ _ _ hq _
  | enter _ _ _ hq _
  | close _ _ _ hq _ =>
      rw [h.closed] at hq
      cases hq
  | turnAway _ _ _ _ hto
  | closeIdle _ _ _ _ hto
  | refuse _ _ _ hto
  | accept _ _ hto
  | giveUp _ _ hto
  | finish _ _ _ hto => exact ⟨hc, hto.holder, hto.worker ▸ h.gone⟩
  | receive hw _ _
  | start hw _
  | complete hw _
  | hook hw _
  | exit hw _ _ _ => exact absurd hw (h.worker_ne rfl)
  | panic hw _ _
  | panicLosing hw _ _ => exact (hw.elim (h.worker_ne rfl) (h.worker_ne rfl)).elim

/-- No task is started in a queue at rest. -/
theorem started_note (h : AtRest q) {s : Step} (ht : Transition q q' s) (l : Ledger) :
    (l.note q s).started = l.started := by
  refine l.started_note_of_ne q ?_
  rintro rfl
  cases ht with
  | start hw _ => exact h.worker_ne rfl hw

end AtRest

/-! ## Who comes too late -/

/-- Who waits when the queue is closed goes on waiting, is dropped, or is turned away. -/
theorem waiting_step_of_closed {q q' : Queue} (hq : q.state = .closed) {s : Step} {j : Nat}
    {name : String} (hr : q.request? j = some (.enqueue name)) (hj : q.stage? j = some .waiting)
    (ht : Transition q q' s) :
    q'.stage? j = some .waiting ∨ q'.stage? j = some .dropped ∨
      q'.stage? j = some (.returned (.rejected (.closed name))) := by
  have hother : ∀ {i : Nat} {t : Stage}, q'.stage? = Function.update q.stage? i (some t) →
      j ≠ i → q'.stage? j = some .waiting := fun hu hne => by
    rw [hu, Function.update_apply, if_neg hne, hj]
  cases ht with
  | call _ hto => exact .inl (hother hto.stages (Nat.ne_of_lt (lt_length_of_stage? hj)))
  | @drop i _ _ _ hto =>
      by_cases hji : j = i
      · rw [hto.stages, hji, Function.update_self]
        exact .inr (.inl rfl)
      · exact .inl (hother hto.stages hji)
  | enterFirst _ _ _ hopen _
  | enter _ _ _ hopen _
  | close _ _ _ hopen _ =>
      rw [hq] at hopen
      cases hopen
  | @turnAway i name' hr' _ _ _ hto =>
      by_cases hji : j = i
      · subst hji
        obtain rfl := Request.enqueue.inj (Option.some.inj (hr.symm.trans hr'))
        rw [hto.stages, Function.update_self]
        exact .inr (.inr rfl)
      · exact .inl (hother hto.stages hji)
  | closeIdle hr' _ _ _ hto =>
      refine .inl (hother hto.stages ?_)
      rintro rfl
      rw [hr] at hr'
      cases hr'
  | refuse _ hs _ hto
  | send _ hs _ _ hto
  | accept _ hs hto
  | giveUp _ hs hto
  | finish _ hs _ hto =>
      refine .inl (hother hto.stages ?_)
      rintro rfl
      rw [hj] at hs
      cases hs
  | receive _ _ hto
  | panicLosing _ _ hto =>
      refine .inl ?_
      rw [hto.stages]
      exact settled_of_ne hj nofun
  | start _ hto
  | complete _ hto
  | hook _ hto
  | panic _ _ hto
  | exit _ _ _ hto =>
      refine .inl ?_
      rw [hto.stages]
      exact hj

/-- An enqueuing caller that comes to a closed queue, or waits there, gets in no more. -/
def ShutOut (q : Queue) (j : Nat) : Prop :=
  ∀ name, q.request? j = some (.enqueue name) →
    q.stage? j = some .waiting ∨ q.stage? j = some .dropped ∨
      q.stage? j = some (.returned (.rejected (.closed name)))

theorem shutOut_of_waiting (q : Queue) {j : Nat}
    (hj : q.stage? j = none ∨ q.stage? j = some .waiting) : ShutOut q j := fun name hr => by
  rcases hj with hj | hj
  · obtain ⟨s, hs⟩ := stage?_of_request? hr
    rw [hj] at hs
    cases hs
  · exact Or.inl hj

theorem ShutOut.step {q q' : Queue} (hq : q.state = .closed) {s : Step} {j : Nat}
    (hj : ShutOut q j) (ht : Transition q q' s) : ShutOut q' j := fun name hr => by
  cases hs : q.stage? j with
  | none => exact shutOut_of_waiting q' (stage?_step_of_none hs ht) name hr
  | some t =>
      rw [request?_step (lt_length_of_stage? hs) ht] at hr
      rcases hj name hr with hw | hd | ha
      · exact waiting_step_of_closed hq hr hw ht
      · exact .inr (.inl (stage?_step hd rfl ht))
      · exact .inr (.inr (stage?_step ha rfl ht))

namespace AtRest

variable {q q' : Queue}

theorem shutOut (q : Queue) {j : Nat} (hj : q.stage? j = none ∨ q.stage? j = some .waiting) :
    ShutOut q j :=
  shutOut_of_waiting q hj

theorem shutOut_step (h : AtRest q) {s : Step} {j : Nat} (hj : ShutOut q j)
    (ht : Transition q q' s) : ShutOut q' j :=
  hj.step h.closed ht

/-- A caller that waits at a queue at rest can have its answer. -/
theorem turn_away (h : AtRest q) {j : Nat} {name : String}
    (hr : q.request? j = some (.enqueue name)) (hj : q.stage? j = some .waiting) :
    ∃ r, q.step? (.lock j) = some r ∧ r.answer? j = some (.rejected (.closed name)) := by
  have hc := calls_eq_some_iff.mpr ⟨hr, hj⟩
  refine ⟨q.enter j (.enqueue name), ?_, ?_⟩
  · simp only [step?, hc, h.free, Option.isNone_none, if_true]
  · rw [answer?_eq_some_iff]
    simp only [enter, h.closed, giveAnswer]
    exact (congrFun (stage?_setStage hj) j).trans (Function.update_self _ _ _)

end AtRest

/-! ## Nobody returns from closing before the queue is at rest -/

theorem Abandoned.step {q q' : Queue} (h : Abandoned q) {s : Step} (ht : Transition q q' s) :
    Abandoned q' := by
  obtain ⟨i, hr, hs⟩ := h
  exact ⟨i, requested_step hr ht, stage?_step hs rfl ht⟩

/-- Whoever waits for the end of the worker has closed the queue, and it is at rest, or abandoned,
when somebody returns from closing it. -/
structure Closing (q : Queue) : Prop where
  joining : ∀ {i : Nat}, q.stage? i = some .joining →
    q.request? i = some .close ∧ q.state = .closed
  closed : q.state = .closed →
    q.worker.isGone = true ∨ Abandoned q ∨ ∃ i, q.stage? i = some .joining
  returned : ∀ {i : Nat} {a : Answer}, q.request? i = some .close →
    q.stage? i = some (.returned a) → AtRest q ∨ Abandoned q

theorem closing_fresh (hooked : Bool) : Closing (fresh hooked) :=
  ⟨nofun, nofun, nofun⟩

namespace Closing

variable {q q' : Queue}

/-- A step of one caller. -/
theorem update (h : Closing q) {s : Step} (ht : Transition q q' s) {i : Nat} {t : Stage}
    {state : QueueState} {holder buffer : Option Nat} {worker : Worker}
    (hto : q.Becomes q' (Function.update q.stage? i (some t)) state holder buffer worker)
    (hjoin : t = .joining → q'.request? i = some .close ∧ state = .closed)
    (hclosed : state = .closed →
      worker.isGone = true ∨ Abandoned q' ∨ ∃ j, q'.stage? j = some .joining)
    (hreturned : ∀ a, q'.request? i = some .close → t = .returned a →
      AtRest q' ∨ Abandoned q') : Closing q' := by
  have hback : ∀ {j : Nat} {u : Stage}, q'.stage? j = some u →
      (j = i ∧ u = t) ∨ (q.stage? j = some u ∧ q'.request? j = q.request? j) :=
    fun {j u} hj => by
      rw [hto.stages, Function.update_apply] at hj
      split at hj
      · exact Or.inl ⟨‹j = i›, (Option.some.inj hj).symm⟩
      · exact Or.inr ⟨hj, hto.requests j (lt_length_of_stage? hj)⟩
  refine ⟨fun {j} hj => ?_, fun hc => ?_, fun {j a} hr hj => ?_⟩
  · rcases hback hj with ⟨rfl, hu⟩ | ⟨hu, hr⟩
    · rw [hto.state]
      exact hjoin hu.symm
    · obtain ⟨hclose, hq⟩ := h.joining hu
      exact ⟨hr.trans hclose, closed_step hq ht⟩
  · rw [hto.state] at hc
    rw [hto.worker]
    exact hclosed hc
  · rcases hback hj with ⟨rfl, hu⟩ | ⟨hu, hr'⟩
    · exact hreturned a hr hu.symm
    · rw [hr'] at hr
      exact (h.returned hr hu).imp (fun hrest => hrest.step ht) (fun hab => hab.step ht)

/-- A step of the worker, which leaves everybody who is closing where it was. -/
theorem ofWorker (h : Closing q) {s : Step} (ht : Transition q q' s)
    {stages : Nat → Option Stage} {holder buffer : Option Nat} {worker : Worker}
    (hto : q.Becomes q' stages q.state holder buffer worker)
    (hstages : stages = q.stage? ∨ ∃ t c, stages = q.settled t c)
    (hgone : q.worker.isGone = true → worker.isGone = true) : Closing q' := by
  have hback : ∀ {j : Nat} {u : Stage}, q'.stage? j = some u → (∀ c, u ≠ .confirming c) →
      q.stage? j = some u ∧ q'.request? j = q.request? j := fun {j u} hj hu => by
    have hjq : q.stage? j = some u := by
      rw [hto.stages] at hj
      rcases hstages with rfl | ⟨t, c, rfl⟩
      · exact hj
      · exact (settled_eq_some hj).resolve_right fun hn => hu c hn.2.2
    exact ⟨hjq, hto.requests j (lt_length_of_stage? hjq)⟩
  refine ⟨fun {j} hj => ?_, fun hc => ?_, fun {j a} hr hj => ?_⟩
  · obtain ⟨hu, hr⟩ := hback hj nofun
    obtain ⟨hclose, hq⟩ := h.joining hu
    exact ⟨hr.trans hclose, closed_step hq ht⟩
  · rw [hto.state] at hc
    rw [hto.worker]
    rcases h.closed hc with hw | hab | ⟨j, hj⟩
    · exact .inl (hgone hw)
    · exact .inr (.inl (hab.step ht))
    · refine .inr (.inr ⟨j, ?_⟩)
      rw [hto.stages]
      rcases hstages with rfl | ⟨t, c, rfl⟩
      · exact hj
      · exact settled_of_ne hj nofun
  · obtain ⟨hu, hr'⟩ := hback hj nofun
    rw [hr'] at hr
    exact (h.returned hr hu).imp (fun hrest => hrest.step ht) (fun hab => hab.step ht)

/-- Whoever waits for the end of the worker goes on waiting while another caller steps. -/
theorem stays (h : Closing q) {s : Step} (ht : Transition q q' s) {i : Nat} {t : Stage}
    (hi : q.stage? i ≠ some .joining) (hq' : q'.stage? = Function.update q.stage? i (some t))
    (hc : q.state = .closed) :
    q.worker.isGone = true ∨ Abandoned q' ∨ ∃ j, q'.stage? j = some .joining := by
  rcases h.closed hc with hw | hab | ⟨j, hj⟩
  · exact .inl hw
  · exact .inr (.inl (hab.step ht))
  · refine .inr (.inr ⟨j, ?_⟩)
    rw [hq', Function.update_of_ne, hj]
    rintro rfl
    exact hi hj

/-- Who finds the lock free and the queue not running finds no worker that goes on. -/
theorem gone_of_free (h : Closing q) (ho : Orderly q) (hf : q.holder = none)
    (hq : q.state ≠ .running) : q.worker.isGone = true ∨ Abandoned q := by
  cases hs : q.state with
  | created => exact .inl (by rw [ho.created hs]; rfl)
  | running => exact absurd hs hq
  | closed =>
      rcases h.closed hs with hw | hab | ⟨j, hj⟩
      · exact .inl hw
      · exact .inr hab
      · have hl := ho.not_holdsLock hf hj
        cases hl

theorem step (h : Closing q) (ho : Orderly q) {s : Step} (ht : Transition q q' s) :
    Closing q' := by
  have henqueue : ∀ {i : Nat} {name : String} {t : Stage}, q.stage? i = some t →
      q.request? i = some (.enqueue name) → q'.request? i ≠ some .close :=
    fun {i name t} hs hr hc => by
      rw [request?_step (lt_length_of_stage? hs) ht, hr] at hc
      cases hc
  have hstep := ht
  cases ht with
  | call _ hto =>
      refine h.update hstep hto nofun (fun hc => h.stays hstep ?_ hto.stages hc) nofun
      rw [stage?_of_length_le (Nat.le_refl _)]
      exact nofun
  | @drop i s hs _ hto =>
      refine h.update hstep hto nofun (fun hc => ?_) nofun
      by_cases hj : s = .joining
      · subst hj
        refine .inr (.inl ⟨i, ?_, by rw [hto.stages, Function.update_self]⟩)
        rw [hto.requests i (lt_length_of_stage? hs)]
        exact (h.joining hs).1
      · exact h.stays hstep (fun hn => hj (Option.some.inj (hs.symm.trans hn))) hto.stages hc
  | enterFirst _ _ _ _ hto
  | enter _ _ _ _ hto => exact h.update hstep hto nofun nofun nofun
  | turnAway hr hs _ hq hto =>
      exact h.update hstep hto nofun (fun _ => h.stays hstep (by simp [hs]) hto.stages hq)
        (fun a hc _ => absurd hc (henqueue hs hr))
  | @close i hr hs _ _ hto =>
      refine h.update hstep hto (fun _ => ⟨?_, rfl⟩) (fun _ => .inr (.inr ⟨i, ?_⟩)) nofun
      · rw [hto.requests i (lt_length_of_stage? hs)]
        exact hr
      · rw [hto.stages, Function.update_self]
  | closeIdle hr hs hf hq hto =>
      have hgone := h.gone_of_free ho hf hq
      refine h.update hstep hto nofun (fun _ => ?_) (fun _ _ _ => ?_)
      · exact hgone.imp id fun hab => .inl (hab.step hstep)
      · exact hgone.imp (fun hw => ⟨hto.state, hto.holder, hto.worker ▸ hw⟩)
          fun hab => hab.step hstep
  | refuse hr hs he hto =>
      exact h.update hstep hto nofun (fun _ => .inl (Worker.isGone_of_hasEnded he))
        (fun a hc _ => absurd hc (henqueue hs hr))
  | send _ hs _ _ hto =>
      exact h.update hstep hto nofun (fun hc => h.stays hstep (by simp [hs]) hto.stages hc) nofun
  | accept hr hs hto
  | giveUp hr hs hto =>
      exact h.update hstep hto nofun (fun hc => h.stays hstep (by simp [hs]) hto.stages hc)
        (fun a hc _ => absurd hc (henqueue hs hr))
  | finish _ hs he hto =>
      have hw := Worker.isGone_of_hasEnded he
      exact h.update hstep hto nofun (fun _ => .inl hw)
        (fun _ _ _ => .inl ⟨hto.state.trans (h.joining hs).2, hto.holder, hto.worker ▸ hw⟩)
  | receive hw _ hto => exact h.ofWorker hstep hto (.inr ⟨_, _, rfl⟩) (by simp [hw, Worker.isGone])
  | start hw hto
  | complete hw hto
  | hook hw hto => exact h.ofWorker hstep hto (.inl rfl) (by simp [hw, Worker.isGone])
  | panic _ _ hto => exact h.ofWorker hstep hto (.inl rfl) (fun _ => rfl)
  | panicLosing _ _ hto => exact h.ofWorker hstep hto (.inr ⟨_, _, rfl⟩) (fun _ => rfl)
  | exit _ _ hq hto => exact h.ofWorker hstep (hq ▸ hto) (.inl rfl) (fun _ => rfl)

end Closing

/-- Closing goes in order in every queue that a run reaches. -/
theorem closing_of_run? {hooked : Bool} {steps : List Step} {q : Queue}
    (h : (fresh hooked).run? steps = some q) : Closing q :=
  (run_induction (P := fun r _ => Orderly r ∧ Closing r)
    (fun hp ht => ⟨hp.1.step ht, hp.2.step hp.1 ht⟩) (l := Ledger.empty)
    ⟨orderly_fresh hooked, closing_fresh hooked⟩ h).2

/-- A worker that has panicked did so in a step. -/
theorem panic_mem {q q' : Queue} {steps : List Step} (hw : q.worker ≠ .panicked)
    (h : q.run? steps = some q') (hw' : q'.worker = .panicked) : Step.panic ∈ steps := by
  induction steps generalizing q with
  | nil =>
      obtain rfl := Option.some.inj h
      exact absurd hw' hw
  | cons s rest ih =>
      obtain ⟨m, hs, hr⟩ := run?_cons h
      by_cases hm : m.worker = .panicked
      · refine List.mem_cons.mpr (Or.inl ?_)
        cases transition_of_step? hs with
        | panic _ _ _ => rfl
        | panicLosing _ _ _ => rfl
        | call _ hto
        | drop _ _ hto
        | enter _ _ _ _ hto
        | turnAway _ _ _ _ hto
        | close _ _ _ _ hto
        | closeIdle _ _ _ _ hto
        | refuse _ _ _ hto
        | send _ _ _ _ hto
        | accept _ _ hto
        | giveUp _ _ hto
        | finish _ _ _ hto => exact absurd (hto.worker.symm.trans hm) hw
        | enterFirst _ _ _ _ hto
        | receive _ _ hto
        | start _ hto
        | hook _ hto
        | exit _ _ _ hto => exact absurd (hto.worker.symm.trans hm) nofun
        | complete _ hto =>
            have hc := hto.worker.symm.trans hm
            split at hc <;> cases hc
      · exact List.mem_cons_of_mem s (ih hm hr)

/-- A queue that is closed never takes tasks again. As long as nobody that closes a queue is
dropped, whoever returns from closing it leaves it closed and without a worker that goes on; every
task that came into the buffer, also one whose caller was dropped meanwhile, has run to its end
unless a panic ended the worker; no further task is ever started; and whoever brings a task later,
or still waits to, can only be told that the queue is closed. -/
theorem close_is_barrier {hooked : Bool} {steps : List Step} {q : Queue}
    (h : (fresh hooked).run? steps = some q) :
    (q.state = .closed → ∀ more q', q.run? more = some q' → q'.state = .closed) ∧
      (¬ Abandoned q → ∀ i a, q.request? i = some .close → q.answer? i = some a →
        q.state = .closed ∧
          (q.worker = .absent ∨ q.worker.hasEnded = true) ∧
          ((q.worker = .panicked ∧ .panic ∈ steps) ∨
            ((fresh hooked).ledger steps).completed = ((fresh hooked).ledger steps).entered) ∧
          ∀ more q', q.run? more = some q' →
            ((fresh hooked).ledger (steps ++ more)).started =
                ((fresh hooked).ledger steps).started ∧
              ∀ j name, q.stage? j = none ∨ q.stage? j = some .waiting →
                q'.request? j = some (.enqueue name) →
                q'.answer? j = some (.rejected (.closed name)) ∨
                  q'.stage? j = some .dropped ∨
                  (q'.stage? j = some .waiting ∧ ∃ r, q'.step? (.lock j) = some r ∧
                    r.answer? j = some (.rejected (.closed name)))) := by
  have hinv : Orderly q ∧ Closing q :=
    run_induction (P := fun r _ => Orderly r ∧ Closing r)
      (fun hp ht => ⟨hp.1.step ht, hp.2.step hp.1 ht⟩) (l := Ledger.empty)
      ⟨orderly_fresh hooked, closing_fresh hooked⟩ h
  refine ⟨fun hq more q' hm => ?_, fun hnot i a hr ha => ?_⟩
  · exact run_induction (P := fun r _ => r.state = .closed) (fun hp ht => closed_step hp ht)
      (l := Ledger.empty) hq hm
  · have hrest : AtRest q :=
      (hinv.2.returned hr (answer?_eq_some_iff.mp ha)).resolve_right hnot
    have hworker := Worker.isGone_iff.mp hrest.gone
    refine ⟨hrest.closed, ?_, ?_, fun more q' hm => ⟨?_, fun j name hj hr' => ?_⟩⟩
    · rcases hworker with hw | hw | hw <;> simp [hw, Worker.hasEnded]
    · have hflow := (accounted_of_run? h).flow
      rcases hworker with hw | hw | hw
      · exact Or.inr (hflow.completed_eq (.inl hw))
      · exact Or.inr (hflow.completed_eq (.inr hw))
      · exact Or.inl ⟨hw, panic_mem (by simp [fresh]) h hw⟩
    · rw [ledger_append h]
      exact (run_induction (P := fun r l => AtRest r ∧
        l.started = ((fresh hooked).ledger steps).started)
        (fun hp ht => ⟨hp.1.step ht, (hp.1.started_note ht _).trans hp.2⟩) ⟨hrest, rfl⟩ hm).2
    · obtain ⟨hrest', hout⟩ := run_induction (P := fun r _ => AtRest r ∧ ShutOut r j)
        (fun hp ht => ⟨hp.1.step ht, hp.1.shutOut_step hp.2 ht⟩) (l := Ledger.empty)
        ⟨hrest, AtRest.shutOut q hj⟩ hm
      rcases hout name hr' with hw | hd | hans
      · exact Or.inr (Or.inr ⟨hw, hrest'.turn_away hr' hw⟩)
      · exact Or.inr (Or.inl hd)
      · exact Or.inl (answer?_eq_some_iff.mpr hans)

/-- Two callers close the queue while a task whose caller was dropped stands in the buffer. The
task is run, then both return, and a task that comes later is turned away. -/
theorem close_is_barrier_orphan : ∃ steps q, (fresh true).run? steps = some q ∧
    q.stage? 0 = some .dropped ∧ q.answer? 1 = some .closed ∧
    ((fresh true).ledger steps).completed = [0] ∧
    ∀ more q', q.run? more = some q' → ((fresh true).ledger (steps ++ more)).started = [0] ∧
      ∀ name, q'.request? 3 = some (.enqueue name) →
        q'.answer? 3 = some (.rejected (.closed name)) ∨ q'.stage? 3 = some .dropped ∨
          (q'.stage? 3 = some .waiting ∧ ∃ r, q'.step? (.lock 3) = some r ∧
            r.answer? 3 = some (.rejected (.closed name))) := by
  have hrun : (fresh true).run? [.call (.enqueue "orphan"), .lock 0, .send 0, .drop 0,
      .call .close, .call .close, .lock 1, .receive, .start, .complete, .hook, .exit, .answer 1,
      .lock 2] = some ⟨.closed, none, none, .exited, true, [⟨.enqueue "orphan", .dropped⟩,
        ⟨.close, .returned .closed⟩, ⟨.close, .returned .closed⟩]⟩ := rfl
  refine ⟨_, _, hrun, rfl, rfl, rfl, fun more q' hm => ?_⟩
  have hrest := (close_is_barrier hrun).2
    (fun
      | ⟨0, hr, _⟩ => by cases hr
      | ⟨1, _, hs⟩ => by cases hs
      | ⟨2, _, hs⟩ => by cases hs
      | ⟨_ + 3, hr, _⟩ => by cases hr) 1 .closed rfl rfl
  obtain ⟨hstarted, hlate⟩ := hrest.2.2.2 more q' hm
  exact ⟨hstarted, fun name hr => hlate 3 name (.inl rfl) hr⟩

end HostInventory.Queue
