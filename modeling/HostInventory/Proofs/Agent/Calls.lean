import HostInventory.Agent.Loop
import HostInventory.Proofs.Queue.Barrier

/-!
# The calls of the agent's loop

What one step of the loop does, as a case for each way in which it can go (`Turn`), and what the
queue makes of it: a step of the loop is a short run of its queue, so a run of the loop is a run of
the queue (`run?_trace`) and everything that holds of runs of queues holds there.

What the loop adds is order among the calls. Whoever else ever called the queue is done with it, and
the loop has one call at a time, to bring a pass or to close (`Coherent`). So once the loop closes
the queue there is nobody left to bring a pass (`entered_step`).
-/

namespace HostInventory

namespace Queue

variable {q q' : Queue}

/-- Everybody is done with the queue but for one caller. -/
def DoneBut (q : Queue) (caller : Option Nat) : Prop :=
  ∀ i s, q.stage? i = some s → caller ≠ some i → s.isFinal = true

/-- Nobody has to do with the queue any more, and nobody that was to close it was dropped. -/
structure Idle (q : Queue) : Prop where
  done : q.DoneBut none
  kept : ¬ Abandoned q

/-- The loop may begin with a queue that nobody has called yet. -/
theorem idle_fresh (hooked : Bool) : Idle (fresh hooked) :=
  ⟨nofun, nofun⟩

namespace DoneBut

variable {caller : Option Nat}

theorem call (h : q.DoneBut none) {r : Request} (ht : Transition q q' (.call r)) :
    q'.DoneBut (some q.calls.length) := by
  intro i s hs hi
  cases ht with
  | call _ hto =>
      rw [hto.stages, Function.update_of_ne fun he => hi (congrArg some he.symm)] at hs
      exact h i s hs nofun

theorem drop {i : Nat} (h : q.DoneBut (some i)) (ht : Transition q q' (.drop i)) :
    q'.DoneBut none := by
  intro j s hs _
  cases ht with
  | drop _ _ hto =>
      rw [hto.stages, Function.update_apply] at hs
      split at hs
      · obtain rfl := Option.some.inj hs
        rfl
      · rename_i hji
        exact h j s hs fun he => hji (Option.some.inj he).symm

theorem answered {i : Nat} {a : Answer} (h : q.DoneBut (some i)) (ha : q.answer? i = some a) :
    q.DoneBut none := by
  intro j s hs _
  by_cases hji : i = j
  · subst hji
    obtain rfl := Option.some.inj (hs.symm.trans (answer?_eq_some_iff.mp ha))
    rfl
  · exact h j s hs fun he => hji (Option.some.inj he)

theorem step (h : q.DoneBut caller) {s : Step} (hs : ∀ r, s ≠ .call r)
    (ht : Transition q q' s) : q'.DoneBut caller := by
  intro i t hi hne
  rcases stage?_of_step hi ht with hq | ⟨r, hr, -⟩ | ⟨u, hu, hopen, -⟩
  · exact h i t hq hne
  · exact absurd hr (hs r)
  · rw [h i u hu hne] at hopen
    cases hopen

end DoneBut

/-- Whoever is to close a queue goes on with it unless it is dropped. -/
theorem kept_step (h : ¬ Abandoned q) {s : Step} (ht : Transition q q' s)
    (hs : ∀ i, s = .drop i → q.request? i ≠ some .close) : ¬ Abandoned q' := by
  rintro ⟨i, hr, hd⟩
  rcases stage?_of_step hd ht with hq | ⟨_, -, -, hw⟩ | ⟨u, hu, -, hdrop⟩
  · rw [request?_step (lt_length_of_stage? hq) ht] at hr
    exact h ⟨i, hr, hq⟩
  · cases hw
  · rw [request?_step (lt_length_of_stage? hu) ht] at hr
    exact hs i (hdrop rfl) hr

end Queue

namespace AgentLoop

open Queue (Transition Ledger)

/-! ## Steps -/

/-- What each step of the loop does, and when it can be made. -/
inductive Turn (l l' : AgentLoop) : Step → Prop where
  | signal (hq : l'.queue = l.queue) (hp : l'.position = l.position) : Turn l l' .signal
  | tick (hp : l.position = .waiting)
      (hq : l.queue.step? (.call (.enqueue collectionTask)) = some l'.queue)
      (hp' : l'.position = .bringing l.queue.calls.length) : Turn l l' .tick
  | observe (hp : l.position = .waiting) (hq : l.queue.step? (.call .close) = some l'.queue)
      (hp' : l'.position = .closing l.queue.calls.length) : Turn l l' .observe
  /-- The pass that is being brought is let go. -/
  | interrupt {i : Nat} {q : Queue} (hp : l.position = .bringing i)
      (hd : l.queue.step? (.drop i) = some q) (hq : q.step? (.call .close) = some l'.queue)
      (hp' : l'.position = .closing q.calls.length) : Turn l l' .observe
  | fail (hp : l.position = .waiting) (hq : l'.queue = l.queue) (hp' : l'.position = .failed) :
      Turn l l' .fail
  | failBringing {i : Nat} (hp : l.position = .bringing i)
      (hd : l.queue.step? (.drop i) = some l'.queue) (hp' : l'.position = .failed) :
      Turn l l' .fail
  | accepted {i : Nat} (hp : l.position = .bringing i) (ha : l.queue.answer? i = some .accepted)
      (hq : l'.queue = l.queue) (hp' : l'.position = .waiting) : Turn l l' .resume
  | rejected {i : Nat} {e : QueueError} (hp : l.position = .bringing i)
      (ha : l.queue.answer? i = some (.rejected e))
      (hq : l.queue.step? (.call .close) = some l'.queue)
      (hp' : l'.position = .closing l.queue.calls.length) : Turn l l' .resume
  | finish {i : Nat} (hp : l.position = .closing i) (ha : l.queue.answer? i = some .closed)
      (hq : l'.queue = l.queue) (hp' : l'.position = .stopped) : Turn l l' .finish
  | queue {s : Queue.Step} (hs : goesOn s = true) (hq : l.queue.step? s = some l'.queue)
      (hp : l'.position = l.position) : Turn l l' (.queue s)

/-- Every step that is made is a turn. -/
theorem turn_of_step? {l l' : AgentLoop} {s : Step} (h : l.step? s = some l') : Turn l l' s := by
  cases s with
  | signal =>
      obtain rfl := Option.some.inj h
      exact .signal rfl rfl
  | tick =>
      simp only [step?] at h
      split at h
      · rename_i hp
        obtain rfl := Option.some.inj h
        exact .tick hp rfl rfl
      · cases h
  | observe =>
      simp only [step?] at h
      split at h
      · cases h
      · split at h
        · rename_i hp
          obtain rfl := Option.some.inj h
          exact .observe hp rfl rfl
        · rename_i i hp
          obtain ⟨q, hd, rfl⟩ := Option.map_eq_some_iff.mp h
          exact .interrupt hp hd rfl rfl
        · cases h
  | fail =>
      simp only [step?] at h
      split at h
      · rename_i hp
        obtain rfl := Option.some.inj h
        exact .fail hp rfl rfl
      · rename_i i hp
        obtain ⟨q, hd, rfl⟩ := Option.map_eq_some_iff.mp h
        exact .failBringing hp hd rfl
      · cases h
  | resume =>
      simp only [step?] at h
      split at h
      · rename_i i hp
        split at h
        · rename_i ha
          obtain rfl := Option.some.inj h
          exact .accepted hp ha rfl rfl
        · rename_i e ha
          obtain rfl := Option.some.inj h
          exact .rejected hp ha rfl rfl
        · cases h
      · cases h
  | finish =>
      simp only [step?] at h
      split at h
      · rename_i i hp
        split at h
        · rename_i ha
          obtain rfl := Option.some.inj h
          exact .finish hp ha rfl rfl
        · cases h
      · cases h
  | queue s =>
      simp only [step?] at h
      split at h
      · rename_i hs
        obtain ⟨q, hq, rfl⟩ := Option.map_eq_some_iff.mp h
        exact .queue hs hq rfl
      · cases h

/-! ## What the queue makes of it -/

/-- The steps of the queue that a step of the loop comes to. -/
def onQueue (l : AgentLoop) : Step → List Queue.Step
  | .signal => []
  | .tick => [.call (.enqueue collectionTask)]
  | .observe =>
    match l.position with
    | .bringing caller => [.drop caller, .call .close]
    | _ => [.call .close]
  | .fail =>
    match l.position with
    | .bringing caller => [.drop caller]
    | _ => []
  | .resume =>
    match l.position with
    | .bringing caller =>
      match l.queue.answer? caller with
      | some (.rejected _) => [.call .close]
      | _ => []
    | _ => []
  | .finish => []
  | .queue s => [s]

/-- The steps of the queue in a run of the loop. -/
def trace (l : AgentLoop) : List Step → List Queue.Step
  | [] => []
  | s :: rest =>
    match l.step? s with
    | some l' => l.onQueue s ++ trace l' rest
    | none => []

theorem run?_onQueue {l l' : AgentLoop} {s : Step} (ht : Turn l l' s) :
    l.queue.run? (l.onQueue s) = some l'.queue := by
  have hone : ∀ {s : Queue.Step} {q q' : Queue}, q.step? s = some q' → q.run? [s] = some q' :=
    fun hs => by rw [Queue.run?, hs]; rfl
  cases ht with
  | signal hq _ => exact congrArg some hq.symm
  | finish _ _ hq _ => exact congrArg some hq.symm
  | tick _ hq _ => exact hone hq
  | queue _ hq _ => exact hone hq
  | observe hp hq _ =>
      simp only [onQueue, hp]
      exact hone hq
  | interrupt hp hd hq _ =>
      simp only [onQueue, hp]
      rw [Queue.run?, hd]
      exact hone hq
  | fail hp hq _ =>
      simp only [onQueue, hp]
      exact congrArg some hq.symm
  | failBringing hp hd _ =>
      simp only [onQueue, hp]
      exact hone hd
  | accepted hp ha hq _ =>
      simp only [onQueue, hp, ha]
      exact congrArg some hq.symm
  | rejected hp ha hq _ =>
      simp only [onQueue, hp, ha]
      exact hone hq

/-! ## Runs -/

theorem run?_cons {l l' : AgentLoop} {s : Step} {rest : List Step}
    (h : l.run? (s :: rest) = some l') :
    ∃ m, l.step? s = some m ∧ m.run? rest = some l' :=
  Option.bind_eq_some_iff.mp h

theorem run?_split {l l' : AgentLoop} {before after : List Step}
    (h : l.run? (before ++ after) = some l') :
    ∃ m, l.run? before = some m ∧ m.run? after = some l' := by
  induction before generalizing l with
  | nil => exact ⟨l, rfl, h⟩
  | cons s rest ih =>
      obtain ⟨m, hs, hr⟩ := run?_cons h
      obtain ⟨r, hm, ha⟩ := ih hr
      refine ⟨r, ?_, ha⟩
      rw [run?, hs]
      exact hm

/-- A run of the loop is a run of its queue. -/
theorem run?_trace {l l' : AgentLoop} {steps : List Step} (h : l.run? steps = some l') :
    l.queue.run? (l.trace steps) = some l'.queue := by
  induction steps generalizing l with
  | nil =>
      obtain rfl := Option.some.inj h
      rfl
  | cons s rest ih =>
      obtain ⟨m, hs, hr⟩ := run?_cons h
      simp only [trace, hs]
      exact Queue.run?_append (run?_onQueue (turn_of_step? hs)) (ih hr)

theorem trace_append {l m : AgentLoop} {before : List Step} (after : List Step)
    (h : l.run? before = some m) : l.trace (before ++ after) = l.trace before ++ m.trace after := by
  induction before generalizing l with
  | nil =>
      obtain rfl := Option.some.inj h
      rfl
  | cons s rest ih =>
      obtain ⟨r, hs, hr⟩ := run?_cons h
      simp only [List.cons_append, trace, hs, List.append_assoc, ih hr]

/-- What every step of the loop preserves, a run preserves. -/
theorem run_induction {P : AgentLoop → Ledger → Prop}
    (hstep : ∀ {l l' : AgentLoop} {d : Ledger} {s : Step}, P l d → Turn l l' s →
      P l' (d.noteAll l.queue (l.onQueue s))) :
    ∀ {steps : List Step} {l l' : AgentLoop} {d : Ledger}, P l d → l.run? steps = some l' →
      P l' (d.noteAll l.queue (l.trace steps))
  | [], _, _, _, hp, hr => by
      obtain rfl := Option.some.inj hr
      exact hp
  | s :: rest, l, l', d, hp, hr => by
      obtain ⟨m, hs, hm⟩ := run?_cons hr
      have ht := turn_of_step? hs
      simp only [trace, hs]
      rw [Ledger.noteAll_append (run?_onQueue ht)]
      exact run_induction hstep (hstep hp ht) hm

/-! ## One call at a time -/

/-- The call that the loop waits for. -/
def Position.caller? : Position → Option Nat
  | bringing caller => some caller
  | closing caller => some caller
  | _ => none

/-- Whoever calls the queue is done with it except the loop itself, which brings a pass or closes
the queue as its position says. -/
structure Coherent (l : AgentLoop) : Prop where
  alone : l.queue.DoneBut l.position.caller?
  brings : ∀ {i}, l.position = .bringing i → l.queue.request? i = some (.enqueue collectionTask)
  closes : ∀ {i}, l.position = .closing i → l.queue.request? i = some .close
  kept : ¬ Queue.Abandoned l.queue
  stopped : l.position = .stopped →
    ∃ i, l.queue.request? i = some .close ∧ l.queue.answer? i = some .closed

theorem coherent_start {q : Queue} (h : q.Idle) : Coherent (start q) :=
  ⟨h.done, nofun, nofun, h.kept, nofun⟩

namespace Coherent

variable {l l' : AgentLoop}

/-! ### What the loop finds -/

/-- A loop that waits for a tick has nothing to do with the queue. -/
theorem idle_of_waiting (h : Coherent l) (hp : l.position = .waiting) : l.queue.Idle := by
  have halone := h.alone
  rw [hp] at halone
  exact ⟨halone, h.kept⟩

theorem idle_of_answer {i : Nat} {a : Queue.Answer} (h : Coherent l)
    (hp : l.position.caller? = some i) (ha : l.queue.answer? i = some a) : l.queue.Idle := by
  have halone := h.alone
  rw [hp] at halone
  exact ⟨halone.answered ha, h.kept⟩

/-- What the loop lets go of is never a call that closes the queue. -/
theorem idle_of_drop {i : Nat} {q : Queue} (h : Coherent l) (hp : l.position = .bringing i)
    (hd : l.queue.step? (.drop i) = some q) : q.Idle := by
  have halone := h.alone
  rw [hp] at halone
  have hdrop := Queue.transition_of_step? hd
  refine ⟨halone.drop hdrop, Queue.kept_step h.kept hdrop fun j hj => ?_⟩
  obtain rfl := Queue.Step.drop.inj hj
  rw [h.brings hp]
  exact nofun

/-! ### What the loop does then -/

/-- The loop waits for nothing. -/
theorem ofIdle (h : l.queue.Idle) (hp : l.position = .waiting ∨ l.position = .failed) :
    Coherent l := by
  obtain ⟨q, position, signalled⟩ := l
  rcases hp with rfl | rfl <;> exact ⟨h.done, nofun, nofun, h.kept, nofun⟩

/-- The loop calls a queue that nobody else has to do with. -/
theorem ofCall {q : Queue} {r : Queue.Request} (h : q.Idle)
    (hq : q.step? (.call r) = some l.queue) (hp : l.position.caller? = some q.calls.length)
    (hbrings : ∀ i, l.position = .bringing i → r = .enqueue collectionTask)
    (hcloses : ∀ i, l.position = .closing i → r = .close) : Coherent l := by
  have ht := Queue.transition_of_step? hq
  have hrequest : ∀ {i}, l.position.caller? = some i → l.queue.request? i = some r := by
    intro i hi
    obtain rfl := Option.some.inj (hp.symm.trans hi)
    cases ht with
    | call hr _ => exact hr
  refine ⟨hp ▸ h.done.call ht, fun hi => ?_, fun hi => ?_, Queue.kept_step h.kept ht nofun,
    fun hi => ?_⟩
  · rw [hrequest (by rw [hi]; rfl), hbrings _ hi]
  · rw [hrequest (by rw [hi]; rfl), hcloses _ hi]
  · rw [hi] at hp
    cases hp

theorem ofBring {q : Queue} (h : q.Idle)
    (hq : q.step? (.call (.enqueue collectionTask)) = some l.queue)
    (hp : l.position = .bringing q.calls.length) : Coherent l := by
  refine ofCall h hq (by rw [hp]; rfl) (fun _ _ => rfl) fun i hi => ?_
  rw [hp] at hi
  cases hi

theorem ofClose {q : Queue} (h : q.Idle) (hq : q.step? (.call .close) = some l.queue)
    (hp : l.position = .closing q.calls.length) : Coherent l := by
  refine ofCall h hq (by rw [hp]; rfl) (fun i hi => ?_) fun _ _ => rfl
  rw [hp] at hi
  cases hi

/-- The queue goes on by itself. -/
theorem ofQueue {s : Queue.Step} (h : Coherent l) (hs : goesOn s = true)
    (hq : l.queue.step? s = some l'.queue) (hp : l'.position = l.position) : Coherent l' := by
  have hcall : ∀ r, s ≠ .call r := by
    rintro r rfl
    cases hs
  have hdrop : ∀ i, s ≠ .drop i := by
    rintro r rfl
    cases hs
  have ht := Queue.transition_of_step? hq
  refine ⟨?_, ?_, ?_, Queue.kept_step h.kept ht fun i hi => absurd hi (hdrop i), ?_⟩
  · rw [hp]
    exact h.alone.step hcall ht
  · rw [hp]
    exact fun hi => Queue.requested_step (h.brings hi) ht
  · rw [hp]
    exact fun hi => Queue.requested_step (h.closes hi) ht
  · rw [hp]
    intro hi
    obtain ⟨i, hr, ha⟩ := h.stopped hi
    rw [Queue.answer?_eq_some_iff] at ha
    exact ⟨i, Queue.requested_step hr ht,
      Queue.answer?_eq_some_iff.mpr (Queue.stage?_step ha rfl ht)⟩

theorem step (h : Coherent l) {s : Step} (ht : Turn l l' s) : Coherent l' := by
  cases ht with
  | signal hq hp =>
      obtain ⟨q, position, signalled⟩ := l'
      obtain rfl : q = l.queue := hq
      obtain rfl : position = l.position := hp
      exact ⟨h.alone, h.brings, h.closes, h.kept, h.stopped⟩
  | tick hp hq hp' => exact .ofBring (h.idle_of_waiting hp) hq hp'
  | observe hp hq hp' => exact .ofClose (h.idle_of_waiting hp) hq hp'
  | interrupt hp hd hq hp' => exact .ofClose (h.idle_of_drop hp hd) hq hp'
  | fail hp hq hp' => exact .ofIdle (hq ▸ h.idle_of_waiting hp) (.inr hp')
  | failBringing hp hd hp' => exact .ofIdle (h.idle_of_drop hp hd) (.inr hp')
  | accepted hp ha hq hp' =>
      exact .ofIdle (hq ▸ h.idle_of_answer (by rw [hp]; rfl) ha) (.inl hp')
  | rejected hp ha hq hp' => exact .ofClose (h.idle_of_answer (by rw [hp]; rfl) ha) hq hp'
  | @finish i hp ha hq hp' =>
      obtain ⟨q, position, signalled⟩ := l'
      obtain rfl : q = l.queue := hq
      obtain rfl : position = .stopped := hp'
      have hidle := h.idle_of_answer (by rw [hp]; rfl) ha
      exact ⟨hidle.done, nofun, nofun, h.kept, fun _ => ⟨i, h.closes hp, ha⟩⟩
  | queue hs hq hp => exact h.ofQueue hs hq hp

theorem run {steps : List Step} (h : Coherent l) (hr : l.run? steps = some l') : Coherent l' :=
  run_induction (P := fun l _ => Coherent l) (fun hp ht => hp.step ht) (d := .empty) h hr

end Coherent

/-! ## Nothing is brought after the signal is seen -/

/-- Whether the loop is done with bringing passes. -/
def Position.isClosing : Position → Bool
  | closing _ => true
  | stopped => true
  | _ => false

/-- When the loop sees the signal, no pass comes into the buffer. -/
theorem entered_observe {l l' : AgentLoop} (ht : Turn l l' .observe) (d : Ledger) :
    l'.position.isClosing = true ∧
      (d.noteAll l.queue (l.onQueue .observe)).entered = d.entered := by
  cases ht with
  | observe hp _ hp'
  | interrupt hp _ _ hp' =>
      refine ⟨by rw [hp']; rfl, Ledger.entered_noteAll (fun i => ?_) d l.queue⟩
      simp [onQueue, hp]

/-- While the loop closes the queue no pass comes into the buffer. -/
theorem entered_step {l l' : AgentLoop} (h : Coherent l) (hc : l.position.isClosing = true)
    {s : Step} (ht : Turn l l' s) (d : Ledger) :
    l'.position.isClosing = true ∧
      (d.noteAll l.queue (l.onQueue s)).entered = d.entered := by
  cases ht with
  | signal _ hp => exact ⟨hp ▸ hc, rfl⟩
  | finish _ _ _ hp' => exact ⟨by rw [hp']; rfl, rfl⟩
  | tick hp _ _
  | observe hp _ _
  | interrupt hp _ _ _
  | fail hp _ _
  | failBringing hp _ _
  | accepted hp _ _ _
  | rejected hp _ _ _ =>
      rw [hp] at hc
      cases hc
  | @queue s hs hq hp =>
      refine ⟨hp ▸ hc, ?_⟩
      simp only [onQueue, Ledger.noteAll, hq]
      refine d.entered_note_of_ne l.queue ?_
      rintro i rfl
      have hsend : ∃ name, l.queue.request? i = some (.enqueue name) ∧
          l.queue.stage? i = some .sending := by
        cases Queue.transition_of_step? hq with
        | refuse hr hs _ _ => exact ⟨_, hr, hs⟩
        | send hr hs _ _ _ => exact ⟨_, hr, hs⟩
      obtain ⟨name, hr, hsending⟩ := hsend
      have hown : l.position.caller? = some i := by
        by_contra hne
        cases h.alone i _ hsending hne
      cases hpos : l.position with
      | closing c =>
          rw [hpos] at hown
          obtain rfl := Option.some.inj hown
          rw [h.closes hpos] at hr
          cases hr
      | stopped =>
          rw [hpos] at hown
          cases hown
      | waiting
      | bringing _
      | failed =>
          rw [hpos] at hc
          cases hc

theorem entered_run {l l' : AgentLoop} {steps : List Step} (h : Coherent l)
    (hc : l.position.isClosing = true) (d : Ledger) (hr : l.run? steps = some l') :
    (d.noteAll l.queue (l.trace steps)).entered = d.entered := by
  refine (run_induction (P := fun l d' => Coherent l ∧ l.position.isClosing = true ∧
    d'.entered = d.entered) (fun {l l' d' s} hp ht => ?_) ⟨h, hc, rfl⟩ hr).2.2
  obtain ⟨hcoherent, hclosing, hd⟩ := hp
  obtain ⟨hclosing', hentered⟩ := entered_step hcoherent hclosing ht d'
  exact ⟨hcoherent.step ht, hclosing', hentered.trans hd⟩

end AgentLoop

end HostInventory
