import HostInventory.Proofs.Queue.Accounting
import HostInventory.Queue.Scheduler

/-!
# A queue never comes to a standstill

Callers wait for one another at the lock, and its holder waits for the worker: for room in the
buffer, for the confirmation, or for the end. `Rests` says what each of these waits rests on: a task
that waits to be confirmed stands in the buffer, and whoever waits for the end has closed the queue
of a worker that was there. So what the holder waits for is something that the worker can do next,
or has done (`exists_workerStep?`).

The scheduler is held against this: each step that it proposes can be made
(`step?_of_holderStep?`, `step?_of_workerStep?`), and it proposes one as long as a call is open.
-/

namespace HostInventory.Queue

/-! ## What waiting rests on -/

/-- What is there for a caller at a stage to wait for. -/
structure Rests (request : Option Request) (state : QueueState) (buffer : Option Nat)
    (worker : Worker) (i : Nat) (s : Stage) : Prop where
  task : s.bringsTask = true → ∃ name, request = some (.enqueue name)
  pending : s = .confirming .pending → buffer = some i ∧ worker.hasEnded = false
  joining : s = .joining → request = some .close ∧ state = .closed ∧ worker ≠ .absent

/-- Whoever waits for the worker waits for something that it does. -/
structure Attended (q : Queue) : Prop where
  rests : ∀ {i : Nat} {s : Stage}, q.stage? i = some s →
    Rests (q.request? i) q.state q.buffer q.worker i s

theorem attended_fresh (hooked : Bool) : Attended (fresh hooked) :=
  ⟨nofun⟩

/-- Who does not hold the lock waits for nothing that is here in question. -/
theorem Rests.of_not_holdsLock {request : Option Request} {state : QueueState}
    {buffer : Option Nat} {worker : Worker} {i : Nat} {s : Stage} (h : s.holdsLock = false) :
    Rests request state buffer worker i s := by
  cases s with
  | sending
  | confirming _
  | joining => cases h
  | waiting
  | returned _
  | dropped => exact ⟨nofun, nofun, nofun⟩

namespace Attended

variable {q q' : Queue}

/-- Nobody waits to be confirmed but the caller whose task is in the buffer. -/
theorem buffer_eq (h : Attended q) {i : Nat} (hi : q.stage? i = some (.confirming .pending)) :
    q.buffer = some i :=
  ((h.rests hi).pending rfl).1

/-- A step of one caller. The worker does not end in it, and a buffer that is not empty stays. -/
theorem update (h : Attended q) {step : Step} (ht : Transition q q' step) {i : Nat} {s : Stage}
    {state : QueueState} {holder buffer : Option Nat} {worker : Worker}
    (hto : q.Becomes q' (Function.update q.stage? i (some s)) state holder buffer worker)
    (hbuffer : ∀ t, q.buffer = some t → buffer = some t)
    (hgoes : q.worker.hasEnded = false → worker.hasEnded = false)
    (hworker : q.worker ≠ .absent → worker ≠ .absent)
    (hs : Rests (q'.request? i) state buffer worker i s) : Attended q' := by
  refine ⟨fun {j t} hj => ?_⟩
  rw [hto.buffer, hto.worker]
  rw [hto.stages, Function.update_apply] at hj
  split at hj
  · rename_i hji
    subst hji
    obtain rfl := Option.some.inj hj
    rw [hto.state]
    exact hs
  · have hq := h.rests hj
    rw [hto.requests j (lt_length_of_stage? hj)]
    refine ⟨hq.task, fun hp => ?_, fun hjoin => ?_⟩
    · obtain ⟨hb, he⟩ := hq.pending hp
      exact ⟨hbuffer j hb, hgoes he⟩
    · obtain ⟨hr, hc, hw⟩ := hq.joining hjoin
      exact ⟨hr, closed_step hc ht, hworker hw⟩

/-- A step of the worker. -/
theorem ofWorker (h : Attended q) {stages : Nat → Option Stage} {buffer : Option Nat}
    {worker : Worker} (hto : q.Becomes q' stages q.state q.holder buffer worker)
    (hstages : stages = q.stage? ∨ ∃ t c, stages = q.settled t c)
    (hpending : ∀ i, stages i = some (.confirming .pending) →
      buffer = some i ∧ worker.hasEnded = false)
    (hworker : worker ≠ .absent) : Attended q' := by
  refine ⟨fun {j s} hj => ?_⟩
  rw [hto.state, hto.buffer, hto.worker]
  rw [hto.stages] at hj
  have hback : ∃ u, q.stage? j = some u ∧ u.bringsTask = s.bringsTask ∧
      (s = .joining → u = .joining) := by
    rcases hstages with rfl | ⟨t, c, rfl⟩
    · exact ⟨s, hj, rfl, id⟩
    · rcases settled_eq_some hj with hq | ⟨-, hp, rfl⟩
      · exact ⟨s, hq, rfl, id⟩
      · exact ⟨_, hp, rfl, nofun⟩
  obtain ⟨u, hu, hbrings, hjoins⟩ := hback
  have hq := h.rests hu
  rw [hto.requests j (lt_length_of_stage? hu)]
  refine ⟨fun hb => hq.task (hbrings.trans hb), ?_, fun hjoin => ?_⟩
  · rintro rfl
    exact hpending j hj
  · obtain ⟨hr, hc, -⟩ := hq.joining (hjoins hjoin)
    exact ⟨hr, hc, hworker⟩

/-- Once the promise to the task in the buffer is resolved nobody waits to be confirmed. -/
theorem settled_ne_pending (h : Attended q) {t : Nat} (hb : q.buffer = some t)
    {c : Confirmation} (hc : c ≠ .pending) (i : Nat) :
    q.settled t c i ≠ some (.confirming .pending) := by
  intro hi
  rw [settled_apply] at hi
  split at hi
  · exact hc (Stage.confirming.inj (Option.some.inj hi))
  · rename_i hnot
    obtain rfl := Option.some.inj (hb.symm.trans (h.buffer_eq hi))
    exact hnot ⟨rfl, hi⟩

theorem step (h : Attended q) (ho : Orderly q) {s : Step} (ht : Transition q q' s) :
    Attended q' := by
  have hstep := ht
  -- with an empty buffer nobody waits to be confirmed
  have hnone : q.buffer = none → ∀ i, q.stage? i ≠ some (.confirming .pending) :=
    fun hb i hi => by
      have := h.buffer_eq hi
      rw [hb] at this
      cases this
  cases ht with
  | call _ hto
  | drop _ _ hto
  | turnAway _ _ _ _ hto
  | closeIdle _ _ _ _ hto
  | refuse _ _ _ hto
  | accept _ _ hto
  | giveUp _ _ hto
  | finish _ _ _ hto =>
      exact h.update hstep hto (fun _ => id) id id (.of_not_holdsLock rfl)
  | @enterFirst i name hr hs _ _ hto =>
      refine h.update hstep hto (fun _ => id) (fun _ => rfl) (fun _ => nofun)
        ⟨fun _ => ⟨name, ?_⟩, nofun, nofun⟩
      rw [hto.requests i (lt_length_of_stage? hs), hr]
  | @enter i name hr hs _ _ hto =>
      refine h.update hstep hto (fun _ => id) id id ⟨fun _ => ⟨name, ?_⟩, nofun, nofun⟩
      rw [hto.requests i (lt_length_of_stage? hs), hr]
  | @close i hr hs _ hq hto =>
      refine h.update hstep hto (fun _ => id) id id
        ⟨nofun, nofun, fun _ => ⟨?_, rfl, (ho.running hq).1⟩⟩
      rw [hto.requests i (lt_length_of_stage? hs), hr]
  | @send i name hr hs he hb hto =>
      refine h.update hstep hto (fun t hbt => ?_) id id
        ⟨fun _ => ⟨name, ?_⟩, fun _ => ⟨rfl, he⟩, nofun⟩
      · rw [hb] at hbt
        cases hbt
      · rw [hto.requests i (lt_length_of_stage? hs), hr]
  | receive _ hb hto
  | panicLosing _ hb hto =>
      exact h.ofWorker hto (.inr ⟨_, _, rfl⟩)
        (fun i hi => absurd hi (h.settled_ne_pending hb (by simp) i)) (by simp)
  | start hw hto
  | hook hw hto =>
      exact h.ofWorker hto (.inl rfl) (fun i hi => ⟨h.buffer_eq hi, rfl⟩) nofun
  | complete hw hto =>
      refine h.ofWorker hto (.inl rfl) (fun i hi => ⟨h.buffer_eq hi, ?_⟩) ?_ <;> split <;>
        first | rfl | exact nofun
  | panic _ hb hto =>
      exact h.ofWorker hto (.inl rfl) (fun i hi => absurd hi (hnone hb i)) nofun
  | exit _ hb hq hto =>
      exact h.ofWorker (hq ▸ hto) (.inl rfl) (fun i hi => absurd hi (hnone hb i)) (by simp)

end Attended

/-- In every queue that a run reaches, whoever waits for the worker waits for something that it
does. -/
theorem attended_of_run? {hooked : Bool} {steps : List Step} {q : Queue}
    (h : (fresh hooked).run? steps = some q) : Orderly q ∧ Attended q :=
  run_induction (P := fun r _ => Orderly r ∧ Attended r)
    (fun hp ht => ⟨hp.1.step ht, hp.2.step hp.1 ht⟩) (l := Ledger.empty)
    ⟨orderly_fresh hooked, attended_fresh hooked⟩ h

/-! ## What the scheduler proposes can be done -/

/-- Whether a step is one of a caller that goes on with its call. -/
def Step.ofCaller : Step → Bool
  | lock _ => true
  | send _ => true
  | answer _ => true
  | _ => false

theorem calls_of_stage? {q : Queue} {i : Nat} {s : Stage} (h : q.stage? i = some s) :
    ∃ r, q.request? i = some r ∧ q.calls[i]? = some ⟨r, s⟩ := by
  obtain ⟨r, hr⟩ := request?_of_stage? h
  exact ⟨r, hr, calls_eq_some_iff.mpr ⟨hr, h⟩⟩

theorem stage?_of_firstWaiting? {q : Queue} {i : Nat} (h : q.firstWaiting? = some i) :
    q.stage? i = some .waiting := by
  obtain ⟨hi, hw, -⟩ := List.findIdx?_eq_some_iff_getElem.mp h
  rw [stage?, List.getElem?_eq_getElem hi]
  simpa using hw

theorem exists_firstWaiting? {q : Queue} {i : Nat} (h : q.stage? i = some .waiting) :
    ∃ j, q.firstWaiting? = some j := by
  cases hf : q.firstWaiting? with
  | some j => exact ⟨j, rfl⟩
  | none =>
      obtain ⟨r, -, hc⟩ := calls_of_stage? h
      have := List.findIdx?_eq_none_iff.mp hf _ (List.mem_of_getElem? hc)
      simp at this

/-- A caller that finds the lock free takes it. -/
theorem step?_lock {q : Queue} {i : Nat} (hs : q.stage? i = some .waiting)
    (hf : q.holder = none) : (q.step? (.lock i)).isSome = true := by
  obtain ⟨r, -, hc⟩ := calls_of_stage? hs
  simp [step?, hc, hf]

theorem step?_send {q : Queue} (ha : Attended q) {i : Nat} (hs : q.stage? i = some .sending)
    (h : q.worker.hasEnded = true ∨ q.buffer = none) : (q.step? (.send i)).isSome = true := by
  obtain ⟨name, hr⟩ := (ha.rests hs).task rfl
  have hc := calls_eq_some_iff.mpr ⟨hr, hs⟩
  rcases h with h | h
  · simp [step?, hc, h]
  · cases he : q.worker.hasEnded <;> simp [step?, hc, he, h]

theorem step?_answer_confirmed {q : Queue} (ha : Attended q) {i : Nat} {c : Confirmation}
    (hs : q.stage? i = some (.confirming c)) (hc : c ≠ .pending) :
    (q.step? (.answer i)).isSome = true := by
  obtain ⟨name, hr⟩ := (ha.rests hs).task rfl
  have hcall := calls_eq_some_iff.mpr ⟨hr, hs⟩
  cases c with
  | pending => exact absurd rfl hc
  | given => simp [step?, hcall, due?]
  | lost => simp [step?, hcall, due?]

theorem step?_answer_joined {q : Queue} (ha : Attended q) {i : Nat}
    (hs : q.stage? i = some .joining) (he : q.worker.hasEnded = true) :
    (q.step? (.answer i)).isSome = true := by
  have hcall := calls_eq_some_iff.mpr ⟨((ha.rests hs).joining rfl).1, hs⟩
  simp [step?, hcall, due?, he]

theorem step?_of_holderStep? {q : Queue} (ha : Attended q) {s : Step}
    (h : q.holderStep? = some s) : (q.step? s).isSome = true ∧ s.ofCaller = true := by
  unfold holderStep? at h
  split at h
  · rename_i hf
    obtain ⟨i, hi, rfl⟩ := Option.map_eq_some_iff.mp h
    exact ⟨step?_lock (stage?_of_firstWaiting? hi) hf, rfl⟩
  · split at h
    · rename_i hs
      split at h
      · rename_i hready
        obtain rfl := Option.some.inj h
        exact ⟨step?_send ha hs (by simpa using hready), rfl⟩
      · cases h
    · rename_i hs
      obtain rfl := Option.some.inj h
      exact ⟨step?_answer_confirmed ha hs nofun, rfl⟩
    · rename_i hs
      obtain rfl := Option.some.inj h
      exact ⟨step?_answer_confirmed ha hs nofun, rfl⟩
    · rename_i hs
      split at h
      · rename_i he
        obtain rfl := Option.some.inj h
        exact ⟨step?_answer_joined ha hs he, rfl⟩
      · cases h
    · cases h

theorem step?_of_workerStep? {q : Queue} {s : Step} (h : q.workerStep? .completed = some s) :
    (q.step? s).isSome = true ∧ s.ofWorker = true ∧ s ≠ .panic := by
  cases hw : q.worker with
  | absent
  | exited
  | panicked => simp [workerStep?, hw] at h
  | taken t
  | running t
  | completed t =>
      simp only [workerStep?, hw, Option.some.injEq] at h
      subst h
      exact ⟨by simp [step?, hw], rfl, by simp⟩
  | idle =>
      cases hb : q.buffer with
      | some t =>
          simp only [workerStep?, hw, hb, Option.some.injEq] at h
          subst h
          exact ⟨by simp [step?, hw, hb], rfl, by simp⟩
      | none =>
          cases hq : q.state with
          | created
          | running => simp [workerStep?, hw, hb, hq] at h
          | closed =>
              simp only [workerStep?, hw, hb, hq, Option.some.injEq] at h
              subst h
              exact ⟨by simp [step?, hw, hb, hq], rfl, by simp⟩

/-! ## There is always something to do -/

/-- A worker that goes on has something to do, unless nothing has come that it could take and the
queue is not closed. -/
theorem exists_workerStep? {q : Queue} (ha : q.worker ≠ .absent)
    (he : q.worker.hasEnded = false) (hidle : q.buffer ≠ none ∨ q.state = .closed) :
    ∃ s, q.workerStep? .completed = some s := by
  cases hw : q.worker with
  | absent => exact absurd hw ha
  | exited
  | panicked =>
      rw [hw] at he
      cases he
  | taken t
  | running t
  | completed t => simp [workerStep?, hw]
  | idle =>
      cases hb : q.buffer with
      | some t => simp [workerStep?, hw, hb]
      | none => simp [workerStep?, hw, hb, hidle.resolve_left fun hn => hn hb]

/-- The holder of the lock can go on, or the worker can. -/
theorem exists_step_of_held {q : Queue} (ho : Orderly q) (ha : Attended q) {i : Nat}
    (hh : q.holder = some i) :
    (∃ s, q.holderStep? = some s) ∨ ∃ s, q.workerStep? .completed = some s := by
  obtain ⟨s, hs, hl⟩ := ho.held hh
  cases s with
  | waiting
  | returned _
  | dropped => cases hl
  | sending =>
      have hw := (ho.running (ho.brings hs rfl)).1
      cases he : q.worker.hasEnded with
      | true => exact .inl ⟨.send i, by simp [holderStep?, hh, hs, he]⟩
      | false =>
          cases hb : q.buffer with
          | none => exact .inl ⟨.send i, by simp [holderStep?, hh, hs, hb]⟩
          | some t => exact .inr (exists_workerStep? hw he (.inl (by simp [hb])))
  | confirming c =>
      cases c with
      | given
      | lost => exact .inl ⟨.answer i, by simp [holderStep?, hh, hs]⟩
      | pending =>
          obtain ⟨hb, he⟩ := (ha.rests hs).pending rfl
          have hw := (ho.running (ho.brings hs rfl)).1
          exact .inr (exists_workerStep? hw he (.inl (by simp [hb])))
  | joining =>
      obtain ⟨-, hq, hw⟩ := (ha.rests hs).joining rfl
      cases he : q.worker.hasEnded with
      | true => exact .inl ⟨.answer i, by simp [holderStep?, hh, hs, he]⟩
      | false => exact .inr (exists_workerStep? hw he (.inr hq))

/-- As long as a call is open, its caller or another can go on, or the worker can. -/
theorem exists_step_of_open {q : Queue} (ho : Orderly q) (ha : Attended q) {i : Nat} {s : Stage}
    (hs : q.stage? i = some s) (hopen : s.isFinal = false) :
    (∃ s, q.holderStep? = some s) ∨ ∃ s, q.workerStep? .completed = some s := by
  cases hh : q.holder with
  | some j => exact exists_step_of_held ho ha hh
  | none =>
      have hw : s = .waiting := by
        have hl := ho.not_holdsLock hh hs
        cases s with
        | waiting => rfl
        | sending
        | confirming _
        | joining => cases hl
        | returned _
        | dropped => cases hopen
      subst hw
      obtain ⟨j, hj⟩ := exists_firstWaiting? hs
      exact .inl ⟨.lock j, by simp [holderStep?, hh, hj]⟩

/-- However callers and worker are interleaved, whoever is dropped and whatever panics: as long as a
caller has no answer and was not dropped, there is a step to be made that is neither a new call nor
a drop nor a panic - one of a caller that takes the lock, sends its task or returns, or one of the
worker that takes a task, starts it, completes it, calls the hook or ends. It is the one that the
scheduler proposes. -/
theorem never_stuck {hooked : Bool} {steps : List Step} {q : Queue}
    (h : (fresh hooked).run? steps = some q) {i : Nat} {s : Stage} (hi : q.stage? i = some s)
    (hopen : s.isFinal = false) :
    ∃ next q', q.next? .completed = some next ∧ q.step? next = some q' ∧
      (next.ofCaller = true ∨ (next.ofWorker = true ∧ next ≠ .panic)) := by
  obtain ⟨ho, ha⟩ := attended_of_run? h
  cases hholder : q.holderStep? with
  | some next =>
      obtain ⟨hstep, hcaller⟩ := step?_of_holderStep? ha hholder
      obtain ⟨q', hq'⟩ := Option.isSome_iff_exists.mp hstep
      exact ⟨next, q', by simp [next?, hholder], hq', .inl hcaller⟩
  | none =>
      obtain ⟨next, hworker⟩ :=
        (exists_step_of_open ho ha hi hopen).resolve_left (by simp [hholder])
      obtain ⟨hstep, hofWorker, hne⟩ := step?_of_workerStep? hworker
      obtain ⟨q', hq'⟩ := Option.isSome_iff_exists.mp hstep
      exact ⟨next, q', by simp [next?, hholder, hworker], hq', .inr ⟨hofWorker, hne⟩⟩

/-- A caller holds the lock and waits for room: the buffer has the task of a caller that was
dropped. The worker takes that task next. -/
theorem never_stuck_orphan : ∃ steps q, (fresh false).run? steps = some q ∧
    q.stage? 0 = some .dropped ∧ q.stage? 1 = some .sending ∧ q.buffer = some 0 ∧
    ∃ next q', q.next? .completed = some next ∧ q.step? next = some q' ∧
      (next.ofCaller = true ∨ (next.ofWorker = true ∧ next ≠ .panic)) := by
  have hrun : (fresh false).run? [.call (.enqueue "orphan"), .lock 0, .send 0, .drop 0,
      .call (.enqueue "second"), .lock 1] = some ⟨.running, some 1, some 0, .idle, false,
        [⟨.enqueue "orphan", .dropped⟩, ⟨.enqueue "second", .sending⟩]⟩ := rfl
  exact ⟨_, _, hrun, rfl, rfl, rfl, never_stuck hrun (i := 1) rfl rfl⟩

end HostInventory.Queue
