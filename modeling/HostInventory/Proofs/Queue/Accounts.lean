import HostInventory.Proofs.Queue.Lock

/-!
# Where every task of a queue is

The tasks that came into the buffer are, in this order: those that were started, the one that the
worker has taken, the one in the buffer, and those that were lost in a panic. `Flow` says so of
worker, buffer and ledger. `Fits` says what the stage of a caller tells about its task: whoever has
not sent it yet has it still, whoever knows it taken finds it started or about to be, and whoever is
told that it is not run has either never sent it or lost it.

Both hold in every queue that a run reaches (`accounted_of_run?`).
-/

namespace HostInventory.Queue

/-! ## The way of the tasks -/

/-- The ledger fits what the worker has in hand. -/
structure Flow (worker : Worker) (buffer : Option Nat) (l : Ledger) : Prop where
  order : l.entered = l.started ++ (worker.taken?.toList ++ (buffer.toList ++ l.lost))
  done : worker ≠ .panicked → l.started = l.completed ++ worker.running?.toList
  intact : worker ≠ .panicked → l.lost = []
  ended : worker.hasEnded = true → buffer = none
  absent : worker = .absent → l.entered = []

theorem flow_empty : Flow .absent none Ledger.empty :=
  ⟨rfl, fun _ => rfl, fun _ => rfl, fun _ => rfl, fun _ => rfl⟩

/-- A task is handed on by the worker, which is in order before and after. -/
theorem Flow.handOn {worker worker' : Worker} {buffer buffer' : Option Nat} {l l' : Ledger}
    (h : Flow worker buffer l) (hw : worker ≠ .panicked) (hw' : worker' ≠ .absent)
    (horder : l.lost = [] →
      l'.entered = l'.started ++ (worker'.taken?.toList ++ (buffer'.toList ++ [])))
    (hdone : l.started = l.completed ++ worker.running?.toList →
      l'.started = l'.completed ++ worker'.running?.toList)
    (hlost : l'.lost = l.lost) (hended : worker'.hasEnded = false ∨ buffer' = none) :
    Flow worker' buffer' l' := by
  have hintact : l'.lost = [] := hlost.trans (h.intact hw)
  refine ⟨?_, fun _ => hdone (h.done hw), fun _ => hintact, fun he => ?_, fun ha => absurd ha hw'⟩
  · rw [hintact]
    exact horder (h.intact hw)
  · exact hended.resolve_left (by simp [he])

/-- The worker turns to something else, without a task that is started, ended or lost. -/
theorem Flow.turn {worker worker' : Worker} {buffer buffer' : Option Nat} {l : Ledger}
    (h : Flow worker buffer l) (hw : worker ≠ .panicked) (hw' : worker' ≠ .absent)
    (hhand : worker'.taken?.toList ++ buffer'.toList = worker.taken?.toList ++ buffer.toList)
    (hrunning : worker'.running? = worker.running?)
    (hended : worker'.hasEnded = false ∨ buffer' = none) : Flow worker' buffer' l := by
  refine h.handOn hw hw' (fun hl => ?_) (fun hd => ?_) rfl hended
  · rw [h.order, hl, List.append_nil, List.append_nil, hhand]
  · rw [hrunning]
    exact hd

/-- A worker that panics loses what stands in the buffer. -/
theorem Flow.panicked {q : Queue} {l : Ledger} {t : Nat} (h : Flow q.worker q.buffer l)
    (hw : q.worker = .running t ∨ q.worker = .completed t) :
    Flow .panicked none (l.note q .panic) := by
  have hlost : l.lost = [] := h.intact (by rcases hw with hw | hw <;> simp [hw])
  refine ⟨?_, fun hp => absurd rfl hp, fun hp => absurd rfl hp, fun _ => rfl, nofun⟩
  simp [Ledger.note, h.order, Worker.taken?_of_busy hw, hlost]

theorem Flow.step {q q' : Queue} {l : Ledger} {s : Step} (ho : Orderly q)
    (h : Flow q.worker q.buffer l) (ht : Transition q q' s) :
    Flow q'.worker q'.buffer (l.note q s) := by
  have horder := h.order
  cases ht with
  | call _ hto
  | drop _ _ hto
  | enter _ _ _ _ hto
  | turnAway _ _ _ _ hto
  | close _ _ _ _ hto
  | closeIdle _ _ _ _ hto
  | accept _ _ hto
  | giveUp _ _ hto
  | finish _ _ _ hto =>
      rw [hto.worker, hto.buffer]
      exact h
  | refuse _ _ he hto =>
      rw [hto.worker, hto.buffer, Ledger.note, if_pos he]
      exact h
  | enterFirst _ _ _ hq hto =>
      have hw := ho.created hq
      rw [hw] at h
      rw [hto.worker, hto.buffer]
      exact h.turn (by simp) (by simp) rfl rfl (.inl rfl)
  | send _ hs he hb hto =>
      have hw : q.worker ≠ .panicked := fun hw => by rw [hw] at he; cases he
      have hw' : q.worker ≠ .absent := (ho.running (ho.brings hs rfl)).1
      rw [hto.worker, hto.buffer, Ledger.note, if_neg (Bool.eq_false_iff.mp he)]
      refine h.handOn hw hw' (fun hl => ?_) id rfl (.inl he)
      simp [horder, hb, hl]
  | receive hw hb hto =>
      rw [hw, hb] at h
      rw [hto.worker, hto.buffer]
      exact h.turn (by simp) (by simp) rfl rfl (.inl rfl)
  | start hw hto =>
      rw [hw] at h horder
      rw [hto.worker, hto.buffer]
      refine h.handOn (by simp) (by simp) (fun hl => ?_) (fun hd => ?_) rfl (.inl rfl)
      · simp [Ledger.note, hw, horder, hl, Worker.taken?]
      · simp [Ledger.note, hw, hd, Worker.taken?, Worker.running?]
  | complete hw hto =>
      rw [hw] at h horder
      rw [hto.worker, hto.buffer]
      refine h.handOn (by simp) (by split <;> simp) (fun hl => ?_) (fun hd => ?_) rfl
        (.inl (by split <;> rfl))
      · split <;> simp [Ledger.note, horder, hl, Worker.taken?]
      · split <;> simp [Ledger.note, hw, hd, Worker.running?]
  | hook hw hto =>
      rw [hw] at h
      rw [hto.worker, hto.buffer]
      exact h.turn (by simp) (by simp) rfl rfl (.inl rfl)
  | panic hw _ hto
  | panicLosing hw _ hto =>
      rw [hto.worker, hto.buffer]
      exact h.panicked hw
  | exit hw hb _ hto =>
      rw [hw, hb] at h
      rw [hto.worker, hto.buffer]
      exact h.turn (by simp) (by simp) rfl rfl (.inr rfl)

/-- A worker that is out of work has completed whatever came into the buffer. -/
theorem Flow.completed_eq {worker : Worker} {buffer : Option Nat} {l : Ledger}
    (h : Flow worker buffer l) (hw : worker = .absent ∨ worker = .exited) :
    l.completed = l.entered := by
  have hne : worker ≠ .panicked := by rcases hw with rfl | rfl <;> exact nofun
  have htaken : worker.taken? = none := by rcases hw with rfl | rfl <;> rfl
  have hrunning : worker.running? = none := by rcases hw with rfl | rfl <;> rfl
  have hdone := h.done hne
  have horder := h.order
  rw [hrunning, Option.toList_none, List.append_nil] at hdone
  rw [htaken, h.intact hne, hdone, Option.toList_none, List.nil_append, List.append_nil] at horder
  rcases hw with rfl | rfl
  · rw [h.absent rfl] at horder ⊢
    exact (List.append_eq_nil_iff.mp horder.symm).1
  · rw [horder, h.ended rfl, Option.toList_none, List.append_nil]

/-! ## What a stage says about the task -/

/-- What holds of the task of a caller at a stage. -/
structure Fits (worker : Worker) (l : Ledger) (i : Nat) (s : Stage) : Prop where
  sent : i ∈ l.entered → s ≠ .waiting ∧ s ≠ .sending
  given : s = .confirming .given ∨ s = .returned .accepted → i ∈ l.started ∨ worker = .taken i
  lost : s = .confirming .lost → i ∈ l.lost
  rejected : ∀ e, s = .returned (.rejected e) → i ∈ l.entered → i ∈ l.lost

theorem Fits.mono {worker worker' : Worker} {l l' : Ledger} {i : Nat} {s : Stage}
    (h : Fits worker l i s) (hentered : i ∈ l'.entered → i ∈ l.entered)
    (hstarted : i ∈ l.started ∨ worker = .taken i → i ∈ l'.started ∨ worker' = .taken i)
    (hlost : i ∈ l.lost → i ∈ l'.lost) : Fits worker' l' i s :=
  ⟨fun hi => h.sent (hentered hi), fun hs => hstarted (h.given hs), fun hs => hlost (h.lost hs),
    fun e hs hi => hlost (h.rejected e hs (hentered hi))⟩

/-- A caller whose task never came into the buffer, and that is told nothing else. -/
theorem Fits.of_not_entered {worker : Worker} {l : Ledger} {i : Nat} {s : Stage}
    (hi : i ∉ l.entered) (hc : ∀ c, s ≠ .confirming c) (ha : s ≠ .returned .accepted) :
    Fits worker l i s :=
  ⟨fun h => absurd h hi, fun h => (h.elim (hc _) ha).elim, fun h => absurd h (hc _),
    fun _ _ h => absurd h hi⟩

/-- The ledger of a run fits the queue that it led to. -/
structure Accounted (q : Queue) (l : Ledger) : Prop where
  orderly : Orderly q
  flow : Flow q.worker q.buffer l
  nodup : l.entered.Nodup
  known : ∀ {i : Nat}, i ∈ l.entered → i < q.calls.length
  fits : ∀ {i : Nat} {s : Stage}, q.stage? i = some s → Fits q.worker l i s

theorem accounted_fresh (hooked : Bool) : Accounted (fresh hooked) Ledger.empty :=
  ⟨orderly_fresh hooked, flow_empty, List.nodup_nil, nofun, nofun⟩

namespace Accounted

variable {q q' : Queue} {l : Ledger}

theorem not_entered (h : Accounted q l) {i : Nat} {s : Stage} (hs : q.stage? i = some s)
    (hw : s = .waiting ∨ s = .sending) : i ∉ l.entered := fun hi => by
  obtain ⟨hwait, hsend⟩ := (h.fits hs).sent hi
  exact hw.elim hwait hsend

theorem started_subset (h : Accounted q l) {i : Nat} (hi : i ∈ l.started) : i ∈ l.entered := by
  rw [h.flow.order]
  exact List.mem_append_left _ hi

theorem started_nodup (h : Accounted q l) : l.started.Nodup := by
  have hn := h.nodup
  rw [h.flow.order] at hn
  exact (List.nodup_append.mp hn).1

/-- A lost task was never started. -/
theorem not_started_of_lost (h : Accounted q l) {i : Nat} (hi : i ∈ l.lost) :
    i ∉ l.started := fun hs => by
  have hn := h.nodup
  rw [h.flow.order] at hn
  refine (List.nodup_append.mp hn).2.2 i hs i ?_ rfl
  exact List.mem_append_right _ (List.mem_append_right _ hi)

/-- A step of one caller that moves no task. -/
theorem update (h : Accounted q l) (ho : Orderly q') (hf : Flow q'.worker q'.buffer l) {i : Nat}
    {s : Stage} {state : QueueState} {holder buffer : Option Nat} {worker : Worker}
    (hto : q.Becomes q' (Function.update q.stage? i (some s)) state holder buffer worker)
    (hw : ∀ t, q.worker = .taken t → worker = .taken t) (hs : Fits worker l i s) :
    Accounted q' l := by
  refine ⟨ho, hf, h.nodup, fun hj => Nat.lt_of_lt_of_le (h.known hj) hto.length,
    fun {j t} hj => ?_⟩
  rw [hto.stages, Function.update_apply] at hj
  rw [hto.worker]
  split at hj
  · rename_i hji
    subst hji
    obtain rfl := Option.some.inj hj
    exact hs
  · exact (h.fits hj).mono id (fun hg => hg.imp id (hw j)) id

/-- A step of the worker that hands a task on. -/
theorem ofWorker (h : Accounted q l) (ho : Orderly q') {l' : Ledger}
    (hf : Flow q'.worker q'.buffer l') {stages : Nat → Option Stage} {state : QueueState}
    {holder buffer : Option Nat} {worker : Worker}
    (hto : q.Becomes q' stages state holder buffer worker) (hentered : l'.entered = l.entered)
    (hfits : ∀ {i : Nat} {s : Stage}, stages i = some s → Fits worker l' i s) :
    Accounted q' l' := by
  refine ⟨ho, hf, hentered ▸ h.nodup, fun hj => ?_, fun {j t} hj => ?_⟩
  · rw [hentered] at hj
    exact Nat.lt_of_lt_of_le (h.known hj) hto.length
  · rw [hto.stages] at hj
    rw [hto.worker]
    exact hfits hj

/-- The task that the worker has taken stands in the ledger before it is started. -/
theorem fits_of_worker_eq (h : Accounted q l) {worker worker' : Worker} (l' : Ledger)
    (hw : q.worker = worker) (hentered : l'.entered = l.entered)
    (hstarted : ∀ i, i ∈ l.started ∨ worker = .taken i → i ∈ l'.started ∨ worker' = .taken i)
    (hlost : ∀ i, i ∈ l.lost → i ∈ l'.lost) {i : Nat} {s : Stage} (hs : q.stage? i = some s) :
    Fits worker' l' i s := by
  have hi := h.fits hs
  rw [hw] at hi
  exact hi.mono (fun he => hentered ▸ he) (hstarted i) (hlost i)

theorem step (h : Accounted q l) {s : Step} (ht : Transition q q' s) :
    Accounted q' (l.note q s) := by
  have ho := h.orderly.step ht
  have hf := h.flow.step h.orderly ht
  cases ht with
  | call _ hto =>
      have hnew : q.calls.length ∉ l.entered := fun hi => absurd (h.known hi) (Nat.lt_irrefl _)
      exact h.update ho hf hto (fun _ => id) (.of_not_entered hnew (by simp) (by simp))
  | drop _ _ hto =>
      exact h.update ho hf hto (fun _ => id) ⟨by simp, by simp, by simp, by simp⟩
  | enterFirst _ hs _ hq hto =>
      refine h.update ho hf hto (fun t hw => ?_)
        (.of_not_entered (h.not_entered hs (.inl rfl)) (by simp) (by simp))
      rw [h.orderly.created hq] at hw
      cases hw
  | enter _ hs _ _ hto
  | turnAway _ hs _ _ hto
  | close _ hs _ _ hto
  | closeIdle _ hs _ _ hto =>
      exact h.update ho hf hto (fun _ => id)
        (.of_not_entered (h.not_entered hs (.inl rfl)) (by simp) (by simp))
  | refuse _ hs he hto =>
      rw [Ledger.note, if_pos he] at hf ⊢
      exact h.update ho hf hto (fun _ => id)
        (.of_not_entered (h.not_entered hs (.inr rfl)) (by simp) (by simp))
  | @send i _ _ hs he _ hto =>
      have hi := h.not_entered hs (.inr rfl)
      rw [Ledger.note, if_neg (Bool.eq_false_iff.mp he)] at hf ⊢
      refine ⟨ho, hf, ?_, fun {j} hj => ?_, fun {j t} hj => ?_⟩
      · exact List.nodup_append.mpr ⟨h.nodup, by simp, fun a ha b hb hab => by
          rw [List.mem_singleton] at hb
          exact hi (hb ▸ hab ▸ ha)⟩
      · rcases List.mem_append.mp hj with hj | hj
        · exact Nat.lt_of_lt_of_le (h.known hj) hto.length
        · rw [List.mem_singleton.mp hj]
          exact Nat.lt_of_lt_of_le (lt_length_of_stage? hs) hto.length
      · rw [hto.stages, Function.update_apply] at hj
        rw [hto.worker]
        split at hj
        · obtain rfl := Option.some.inj hj
          exact ⟨by simp, by simp, by simp, by simp⟩
        · rename_i hne
          refine (h.fits hj).mono (fun hm => ?_) id id
          exact (List.mem_append.mp hm).resolve_right fun hm => hne (List.mem_singleton.mp hm)
  | accept _ hs hto =>
      refine h.update ho hf hto (fun _ => id) ⟨by simp, fun _ => ?_, by simp, by simp⟩
      exact (h.fits hs).given (.inl rfl)
  | giveUp _ hs hto =>
      refine h.update ho hf hto (fun _ => id) ⟨by simp, by simp, by simp, fun _ _ _ => ?_⟩
      exact (h.fits hs).lost rfl
  | finish _ _ _ hto =>
      exact h.update ho hf hto (fun _ => id) ⟨by simp, by simp, by simp, by simp⟩
  | receive hw _ hto =>
      refine h.ofWorker ho hf hto rfl fun hs => ?_
      rcases settled_eq_some hs with hs | ⟨rfl, hp, rfl⟩
      · exact h.fits_of_worker_eq l hw rfl (fun _ hg => .inl (hg.resolve_right (by simp)))
          (fun _ => id) hs
      · exact ⟨by simp, fun _ => .inr rfl, by simp, by simp⟩
  | start hw hto =>
      refine h.ofWorker ho hf hto rfl fun hs =>
        h.fits_of_worker_eq (l.note q .start) hw rfl (fun i hg => ?_) (fun _ => id) hs
      rw [Ledger.note, hw]
      refine .inl (List.mem_append.mpr (hg.imp id fun hi => ?_))
      obtain rfl := Worker.taken.inj hi
      exact List.mem_singleton.mpr rfl
  | complete hw hto =>
      exact h.ofWorker ho hf hto rfl fun hs => h.fits_of_worker_eq (l.note q .complete) hw rfl
        (fun _ hg => .inl (hg.resolve_right (by simp))) (fun _ => id) hs
  | hook hw hto =>
      exact h.ofWorker ho hf hto rfl fun hs => h.fits_of_worker_eq l hw rfl
        (fun _ hg => .inl (hg.resolve_right (by simp))) (fun _ => id) hs
  | panic hw _ hto =>
      refine h.ofWorker ho hf hto rfl fun hs => h.fits_of_worker_eq (l.note q .panic) rfl rfl
        (fun i hg => .inl (hg.resolve_right ?_)) (fun _ => List.mem_append_left _) hs
      rcases hw with hw | hw <;> simp [hw]
  | panicLosing hw hb hto =>
      refine h.ofWorker ho hf hto rfl fun hs => ?_
      rcases settled_eq_some hs with hs | ⟨rfl, hp, rfl⟩
      · refine h.fits_of_worker_eq (l.note q .panic) rfl rfl
          (fun i hg => .inl (hg.resolve_right ?_)) (fun _ => List.mem_append_left _) hs
        rcases hw with hw | hw <;> simp [hw]
      · refine ⟨by simp, by simp, fun _ => ?_, by simp⟩
        rw [Ledger.note, hb]
        exact List.mem_append_right _ (List.mem_singleton.mpr rfl)
  | exit hw _ _ hto =>
      exact h.ofWorker ho hf hto rfl fun hs => h.fits_of_worker_eq l hw rfl
        (fun _ hg => .inl (hg.resolve_right (by simp))) (fun _ => id) hs

end Accounted

/-- The ledger of every run fits the queue that the run led to. -/
theorem accounted_of_run? {hooked : Bool} {steps : List Step} {q : Queue}
    (h : (fresh hooked).run? steps = some q) : Accounted q ((fresh hooked).ledger steps) :=
  run_induction (P := Accounted) (fun hp ht => hp.step ht) (accounted_fresh hooked) h

end HostInventory.Queue
