import HostInventory.Proofs.Queue.Barrier
import HostInventory.Proofs.Queue.Progress
import Mathlib.Algebra.Order.BigOperators.Group.Finset

/-!
# A panic stays with its task

When a task or the hook panics the worker is gone for good, but the queue is not: whoever has the
lock is told so and lets go of it, whoever gets it next likewise, until somebody closes the queue.

Once the worker has ended the holder of the lock waits for nothing any more (`Owed`), so that a
step of such a queue is a new call, a drop, a caller that takes the lock, or the holder's return
(`AfterEnd`). Everything below is by cases on these.
-/

namespace HostInventory.Queue

/-! ## A worker that has ended -/

/-- What a caller with the lock in its hands is told once the worker has ended. -/
def Call.lastAnswer? : Call → Option Answer
  | ⟨.enqueue name, .sending⟩ => some (.rejected (.workerStopped name))
  | ⟨.enqueue name, .confirming .lost⟩ => some (.rejected (.workerStopped name))
  | ⟨.enqueue _, .confirming .given⟩ => some .accepted
  | ⟨.close, .joining⟩ => some .closed
  | _ => none

theorem Call.lastAnswer?_eq_some {r : Request} {s : Stage} {a : Answer}
    (h : Call.lastAnswer? ⟨r, s⟩ = some a) :
    (∃ name, r = .enqueue name ∧ (s = .sending ∨ s = .confirming .lost) ∧
        a = .rejected (.workerStopped name)) ∨
      (∃ name, r = .enqueue name ∧ s = .confirming .given ∧ a = .accepted) ∨
      (r = .close ∧ s = .joining ∧ a = .closed) := by
  unfold lastAnswer? at h
  split at h
  · rename_i name heq
    obtain ⟨rfl, rfl⟩ := Call.mk.inj heq
    exact .inl ⟨name, rfl, .inl rfl, (Option.some.inj h).symm⟩
  · rename_i name heq
    obtain ⟨rfl, rfl⟩ := Call.mk.inj heq
    exact .inl ⟨name, rfl, .inr rfl, (Option.some.inj h).symm⟩
  · rename_i name heq
    obtain ⟨rfl, rfl⟩ := Call.mk.inj heq
    exact .inr (.inl ⟨name, rfl, rfl, (Option.some.inj h).symm⟩)
  · rename_i heq
    obtain ⟨rfl, rfl⟩ := Call.mk.inj heq
    exact .inr (.inr ⟨rfl, rfl, (Option.some.inj h).symm⟩)
  · cases h

/-- A caller holds the lock and is to be told `a`. -/
structure Owed (q : Queue) (i : Nat) (a : Answer) : Prop where
  holder : q.holder = some i
  answer : ∃ r s, q.request? i = some r ∧ q.stage? i = some s ∧
    Call.lastAnswer? ⟨r, s⟩ = some a

/-- A queue whose worker has ended, as runs lead to it. -/
structure Ended (q : Queue) : Prop where
  orderly : Orderly q
  attended : Attended q
  ended : q.worker.hasEnded = true

/-- What a step does to a queue whose worker has ended: somebody comes or is dropped, gets the lock,
is turned away, or has the lock and returns. -/
inductive AfterEnd (q q' : Queue) : Step → Prop where
  | call {r : Request}
      (hto : q.Becomes q' (Function.update q.stage? q.calls.length (some .waiting)) q.state
        q.holder q.buffer q.worker) :
      AfterEnd q q' (.call r)
  | drop {i : Nat} {s : Stage} (hs : q.stage? i = some s)
      (hto : q.Becomes q' (Function.update q.stage? i (some .dropped)) q.state
        (if q.holder = some i then none else q.holder) q.buffer q.worker) :
      AfterEnd q q' (.drop i)
  | enter {i : Nat} (hs : q.stage? i = some .waiting) (hf : q.holder = none)
      (hto : q.Becomes q' (Function.update q.stage? i (some .sending)) q.state (some i) q.buffer
        q.worker) :
      AfterEnd q q' (.lock i)
  | close {i : Nat} (hr : q.request? i = some .close) (hs : q.stage? i = some .waiting)
      (hf : q.holder = none)
      (hto : q.Becomes q' (Function.update q.stage? i (some .joining)) .closed (some i) q.buffer
        q.worker) :
      AfterEnd q q' (.lock i)
  | late {i : Nat} {a : Answer} (hs : q.stage? i = some .waiting) (hf : q.holder = none)
      (hto : q.Becomes q' (Function.update q.stage? i (some (.returned a))) q.state none q.buffer
        q.worker) :
      AfterEnd q q' (.lock i)
  | tell {i : Nat} {a : Answer} {s : Step} (hi : Owed q i a) (hs : s = .send i ∨ s = .answer i)
      (hto : q.Becomes q' (Function.update q.stage? i (some (.returned a))) q.state none q.buffer
        q.worker) :
      AfterEnd q q' s

namespace Ended

variable {q q' : Queue}

theorem worker_ne (h : Ended q) {w : Worker} (hw : w.hasEnded = false) : q.worker ≠ w := by
  rintro rfl
  have he := h.ended
  rw [hw] at he
  cases he

theorem state_ne_created (h : Ended q) : q.state ≠ .created := fun hc =>
  h.worker_ne rfl (h.orderly.created hc)

theorem owed_of_stage? (h : Ended q) {i : Nat} {r : Request} {s : Stage} {a : Answer}
    (hr : q.request? i = some r) (hs : q.stage? i = some s) (hl : s.holdsLock = true)
    (ha : Call.lastAnswer? ⟨r, s⟩ = some a) : Owed q i a :=
  ⟨h.orderly.lock hs hl, r, s, hr, hs, ha⟩

theorem after (h : Ended q) {s : Step} (ht : Transition q q' s) : AfterEnd q q' s := by
  cases ht with
  | call _ hto => exact .call hto
  | drop hs _ hto => exact .drop hs hto
  | enterFirst _ _ _ hq _ => exact absurd hq h.state_ne_created
  | enter _ hs hf hq hto => exact .enter hs hf (hq ▸ hto)
  | turnAway _ hs hf hq hto => exact .late hs hf (hq ▸ hto)
  | close hr hs hf _ hto => exact .close hr hs hf hto
  | closeIdle _ hs hf hq hto =>
      have hc : q.state = .closed := by
        cases hstate : q.state with
        | created => exact absurd hstate h.state_ne_created
        | running => exact absurd hstate hq
        | closed => rfl
      exact .late hs hf (hc ▸ hto)
  | refuse hr hs _ hto => exact .tell (h.owed_of_stage? hr hs rfl rfl) (.inl rfl) hto
  | send _ _ he _ _ =>
      rw [h.ended] at he
      cases he
  | accept hr hs hto => exact .tell (h.owed_of_stage? hr hs rfl rfl) (.inr rfl) hto
  | giveUp hr hs hto => exact .tell (h.owed_of_stage? hr hs rfl rfl) (.inr rfl) hto
  | finish hr hs _ hto => exact .tell (h.owed_of_stage? hr hs rfl rfl) (.inr rfl) hto
  | receive hw _ _
  | start hw _
  | complete hw _
  | hook hw _
  | exit hw _ _ _ => exact absurd hw (h.worker_ne rfl)
  | panic hw _ _
  | panicLosing hw _ _ => exact (hw.elim (h.worker_ne rfl) (h.worker_ne rfl)).elim

end Ended

theorem AfterEnd.worker {q q' : Queue} {s : Step} (h : AfterEnd q q' s) :
    q'.worker = q.worker := by
  cases h with
  | call hto
  | drop _ hto
  | enter _ _ hto
  | close _ _ _ hto
  | late _ _ hto
  | tell _ _ hto => exact hto.worker

theorem AfterEnd.started_note {q q' : Queue} {s : Step} (h : AfterEnd q q' s) (l : Ledger) :
    (l.note q s).started = l.started := by
  refine l.started_note_of_ne q ?_
  cases h with
  | call _
  | drop _ _
  | enter _ _ _
  | close _ _ _ _
  | late _ _ _ => exact nofun
  | tell _ hs _ => rcases hs with rfl | rfl <;> exact nofun

theorem AfterEnd.given_of_given {q q' : Queue} {s : Step} (h : AfterEnd q q' s) {i : Nat}
    (hi : q'.stage? i = some (.confirming .given)) : q.stage? i = some (.confirming .given) := by
  cases h with
  | call hto
  | drop _ hto
  | enter _ _ hto
  | close _ _ _ hto
  | late _ _ hto
  | tell _ _ hto =>
      rw [hto.stages, Function.update_apply] at hi
      split at hi
      · cases hi
      · exact hi

namespace Ended

variable {q q' : Queue}

theorem step (h : Ended q) {s : Step} (ht : Transition q q' s) : Ended q' :=
  ⟨h.orderly.step ht, h.attended.step h.orderly ht, (h.after ht).worker ▸ h.ended⟩

theorem run (h : Ended q) {more : List Step} (hm : q.run? more = some q') : Ended q' :=
  run_induction (P := fun r _ => Ended r) (fun hp ht => hp.step ht) (l := Ledger.empty) h hm

/-- Whoever holds the lock is owed an answer. -/
theorem exists_owed (h : Ended q) {i : Nat} (hi : q.holder = some i) : ∃ a, Owed q i a := by
  obtain ⟨s, hs, hl⟩ := h.orderly.held hi
  have hrests := h.attended.rests hs
  cases s with
  | waiting
  | returned _
  | dropped => cases hl
  | sending =>
      obtain ⟨name, hr⟩ := hrests.task rfl
      exact ⟨_, h.owed_of_stage? hr hs rfl rfl⟩
  | joining => exact ⟨_, h.owed_of_stage? (hrests.joining rfl).1 hs rfl rfl⟩
  | confirming c =>
      obtain ⟨name, hr⟩ := hrests.task rfl
      cases c with
      | pending =>
          have he := (hrests.pending rfl).2
          rw [h.ended] at he
          cases he
      | given
      | lost => exact ⟨_, h.owed_of_stage? hr hs rfl rfl⟩

/-- Whoever brings a task that the worker did not take is owed the news that it stopped. -/
theorem owed_of_enqueue (h : Ended q) {i : Nat} {name : String} (hi : q.holder = some i)
    (hr : q.request? i = some (.enqueue name)) (hs : q.stage? i ≠ some (.confirming .given)) :
    Owed q i (.rejected (.workerStopped name)) := by
  obtain ⟨a, howed⟩ := h.exists_owed hi
  obtain ⟨r, s, hr', hs', ha⟩ := howed.answer
  obtain rfl := Option.some.inj (hr.symm.trans hr')
  rcases Call.lastAnswer?_eq_some ha with ⟨name', hname, -, rfl⟩ | ⟨-, -, rfl, -⟩ | ⟨hclose, -, -⟩
  · obtain rfl := Request.enqueue.inj hname
    exact howed
  · exact absurd hs' hs
  · cases hclose

/-- Whoever closes the queue is owed the news that it is closed, which it is. -/
theorem owed_of_close (h : Ended q) {i : Nat} (hi : q.holder = some i)
    (hr : q.request? i = some .close) : Owed q i .closed ∧ q.state = .closed := by
  obtain ⟨a, howed⟩ := h.exists_owed hi
  obtain ⟨r, s, hr', hs, ha⟩ := howed.answer
  obtain rfl := Option.some.inj (hr.symm.trans hr')
  rcases Call.lastAnswer?_eq_some ha with ⟨_, hname, -, -⟩ | ⟨_, hname, -, -⟩ | ⟨-, rfl, rfl⟩
  · cases hname
  · cases hname
  · exact ⟨howed, ((h.attended.rests hs).joining rfl).2.1⟩

end Ended

/-! ## The holder of the lock returns -/

/-- A caller is about to be told `a`: it can make the step in which it is told, and every other
step that can be made is a new call or a drop. -/
structure AboutToReturn (q : Queue) (i : Nat) (a : Answer) : Prop where
  can : ∃ s q', s.ofCaller = true ∧ q.step? s = some q' ∧ q'.answer? i = some a
  only : ∀ {s : Step} {q' : Queue}, q.step? s = some q' →
    (∃ r, s = .call r) ∨ (∃ j, s = .drop j) ∨ q'.answer? i = some a

/-- A caller was told `a`, is about to be told, or was dropped. -/
def Promised (q : Queue) (i : Nat) (a : Answer) : Prop :=
  q.answer? i = some a ∨ q.stage? i = some .dropped ∨ AboutToReturn q i a

namespace Owed

variable {q q' : Queue} {i : Nat} {a : Answer}

theorem unique {j : Nat} {b : Answer} (h : Owed q i a) (hj : Owed q j b) : j = i ∧ b = a := by
  obtain ⟨hi, r, s, hr, hs, ha⟩ := h
  obtain ⟨hj, r', s', hr', hs', hb⟩ := hj
  obtain rfl := Option.some.inj (hi.symm.trans hj)
  obtain rfl := Option.some.inj (hr.symm.trans hr')
  obtain rfl := Option.some.inj (hs.symm.trans hs')
  exact ⟨rfl, Option.some.inj (hb.symm.trans ha)⟩

theorem can (h : Owed q i a) (he : Ended q) :
    ∃ s q', (s = .send i ∨ s = .answer i) ∧ q.step? s = some q' := by
  obtain ⟨-, r, s, -, hs, ha⟩ := h
  have hready : ∃ t : Step, (t = .send i ∨ t = .answer i) ∧ (q.step? t).isSome = true := by
    rcases Call.lastAnswer?_eq_some ha with ⟨_, -, rfl | rfl, -⟩ | ⟨_, -, rfl, -⟩ | ⟨-, rfl, -⟩
    · exact ⟨_, .inl rfl, step?_send he.attended hs (.inl he.ended)⟩
    · exact ⟨_, .inr rfl, step?_answer_confirmed he.attended hs (by simp)⟩
    · exact ⟨_, .inr rfl, step?_answer_confirmed he.attended hs (by simp)⟩
    · exact ⟨_, .inr rfl, step?_answer_joined he.attended hs he.ended⟩
  obtain ⟨t, ht, hsome⟩ := hready
  obtain ⟨q', hq'⟩ := Option.isSome_iff_exists.mp hsome
  exact ⟨t, q', ht, hq'⟩

theorem step (h : Owed q i a) (he : Ended q) {s : Step} (ht : Transition q q' s) :
    q'.answer? i = some a ∨ (s = .drop i ∧ q'.stage? i = some .dropped) ∨
      (((∃ r, s = .call r) ∨ ∃ j, s = .drop j) ∧ Owed q' i a) := by
  have hstage : ∃ t, q.stage? i = some t := h.answer.elim fun _ ⟨t, _, ht, _⟩ => ⟨t, ht⟩
  obtain ⟨t, hi⟩ := hstage
  have hstays : q'.holder = some i → q'.stage? i = q.stage? i → Owed q' i a := fun hh hs => by
    obtain ⟨-, r, s, hr, hs', ha⟩ := h
    exact ⟨hh, r, s, requested_step hr ht, hs.trans hs', ha⟩
  cases he.after ht with
  | @call r hto =>
      refine .inr (.inr ⟨.inl ⟨r, rfl⟩, hstays (hto.holder.trans h.holder) ?_⟩)
      rw [hto.stages, Function.update_of_ne (Nat.ne_of_lt (lt_length_of_stage? hi))]
  | @drop j _ _ hto =>
      by_cases hj : j = i
      · subst hj
        refine .inr (.inl ⟨rfl, ?_⟩)
        rw [hto.stages, Function.update_self]
      · refine .inr (.inr ⟨.inr ⟨j, rfl⟩, hstays ?_ ?_⟩)
        · rw [hto.holder, if_neg, h.holder]
          rw [h.holder]
          exact fun hn => hj (Option.some.inj hn).symm
        · rw [hto.stages, Function.update_of_ne (fun hn => hj hn.symm)]
  | enter _ hf _
  | close _ _ hf _
  | late _ hf _ =>
      rw [h.holder] at hf
      cases hf
  | tell hj _ hto =>
      obtain ⟨rfl, rfl⟩ := h.unique hj
      refine .inl (answer?_eq_some_iff.mpr ?_)
      rw [hto.stages, Function.update_self]

theorem aboutToReturn (h : Owed q i a) (he : Ended q) : AboutToReturn q i a := by
  refine ⟨?_, fun {s q'} hs => ?_⟩
  · obtain ⟨s, q', hs, hstep⟩ := h.can he
    refine ⟨s, q', by rcases hs with rfl | rfl <;> rfl, hstep, ?_⟩
    rcases h.step he (transition_of_step? hstep) with ha | ⟨rfl, -⟩ | ⟨hne, -⟩
    · exact ha
    · rcases hs with hs | hs <;> cases hs
    · rcases hs with rfl | rfl <;> rcases hne with ⟨_, hn⟩ | ⟨_, hn⟩ <;> cases hn
  · rcases h.step he (transition_of_step? hs) with ha | ⟨rfl, -⟩ | ⟨hc | hd, -⟩
    · exact .inr (.inr ha)
    · exact .inr (.inl ⟨i, rfl⟩)
    · exact .inl hc
    · exact .inr (.inl hd)

/-- However the run goes on, the holder of the lock gets its answer unless it is dropped. -/
theorem promised (h : Owed q i a) (he : Ended q) {rest : List Step} {r : Queue}
    (hr : q.run? rest = some r) : Promised r i a := by
  -- once told or dropped it stays so, and until then nobody else can come between
  have hinv := run_induction
    (P := fun r _ => Ended r ∧
      (r.answer? i = some a ∨ r.stage? i = some .dropped ∨ Owed r i a))
    (fun {r r' _ s} hp ht => ⟨hp.1.step ht, ?_⟩) (l := Ledger.empty) ⟨he, .inr (.inr h)⟩ hr
  · obtain ⟨he', ha | hd | ho⟩ := hinv
    · exact .inl ha
    · exact .inr (.inl hd)
    · exact .inr (.inr (ho.aboutToReturn he'))
  · rcases hp.2 with ha | hd | ho
    · exact .inl (answer?_eq_some_iff.mpr (stage?_step (answer?_eq_some_iff.mp ha) rfl ht))
    · exact .inr (.inl (stage?_step hd rfl ht))
    · exact (ho.step hp.1 ht).imp id (Or.imp And.right And.right)

end Owed

/-! ## Everybody returns -/

/-- How many steps a caller may still make once the worker has ended. -/
def Stage.toGo : Stage → Nat
  | waiting => 2
  | sending => 1
  | confirming _ => 1
  | joining => 1
  | returned _ => 0
  | dropped => 0

/-- How many steps the callers together may still make once the worker has ended. -/
def toGo (q : Queue) : Nat :=
  ∑ i ∈ Finset.range q.calls.length, (q.stage? i).elim 0 Stage.toGo

def Step.isCall : Step → Bool
  | call _ => true
  | _ => false

theorem toGo_update {q q' : Queue} {i : Nat} {s t : Stage}
    (hlength : q'.calls.length = q.calls.length) (hs : q.stage? i = some s)
    (hto : q'.stage? = Function.update q.stage? i (some t)) :
    q'.toGo + s.toGo = q.toGo + t.toGo := by
  have hi : i ∈ Finset.range q.calls.length := Finset.mem_range.mpr (lt_length_of_stage? hs)
  have hrest : ∀ j ∈ (Finset.range q.calls.length).erase i,
      (q'.stage? j).elim 0 Stage.toGo = (q.stage? j).elim 0 Stage.toGo := fun j hj => by
    rw [hto, Function.update_of_ne (Finset.ne_of_mem_erase hj)]
  have hafter := Finset.add_sum_erase _ (fun j => (q'.stage? j).elim 0 Stage.toGo) hi
  have hbefore := Finset.add_sum_erase _ (fun j => (q.stage? j).elim 0 Stage.toGo) hi
  rw [Finset.sum_congr rfl hrest] at hafter
  simp only [hto, Function.update_self, Option.elim_some] at hafter
  simp only [hs, Option.elim_some] at hbefore
  simp only [toGo, hlength, hto]
  omega

theorem toGo_call {q q' : Queue} {r : Request} (h : q.step? (.call r) = some q') :
    q'.toGo = q.toGo + 2 := by
  obtain rfl := Option.some.inj h
  have hold : ∀ j ∈ Finset.range q.calls.length,
      (({ q with calls := q.calls ++ [⟨r, .waiting⟩] } : Queue).stage? j).elim 0 Stage.toGo =
        (q.stage? j).elim 0 Stage.toGo := fun j hj => by
    rw [(becomes_call q r).stages, Function.update_of_ne (Nat.ne_of_lt (Finset.mem_range.mp hj))]
  simp only [toGo, List.length_append, List.length_singleton, Finset.sum_range_succ,
    Finset.sum_congr rfl hold]
  rw [(becomes_call q r).stages, Function.update_self]
  rfl

/-- Each step of a caller brings the callers nearer to their answers, and only new calls lead away
from there. -/
theorem Ended.toGo_step {q q' : Queue} (h : Ended q) {s : Step} (hs : q.step? s = some q') :
    q'.toGo + (if s.ofCaller then 1 else 0) ≤ q.toGo + 2 * (if s.isCall then 1 else 0) := by
  cases h.after (transition_of_step? hs) with
  | call _ => simp [toGo_call hs, Step.ofCaller, Step.isCall]
  | drop hi hto =>
      have := toGo_update (length_calls_of_step? hs nofun) hi hto.stages
      simp only [Stage.toGo, Step.ofCaller, Step.isCall] at this ⊢
      simp only [Bool.false_eq_true, if_false]
      omega
  | enter hi _ hto
  | close _ hi _ hto
  | late hi _ hto =>
      have := toGo_update (length_calls_of_step? hs nofun) hi hto.stages
      simp only [Stage.toGo, Step.ofCaller, Step.isCall] at this ⊢
      simp only [Bool.false_eq_true, if_true, if_false]
      omega
  | @tell i a _ hi hstep hto =>
      obtain ⟨-, r, t, -, ht, ha⟩ := hi
      have hone : t.toGo = 1 := by
        rcases Call.lastAnswer?_eq_some ha with ⟨_, -, rfl | rfl, -⟩ | ⟨_, -, rfl, -⟩ |
          ⟨-, rfl, -⟩ <;> rfl
      have hne : ∀ r, s ≠ .call r := by rcases hstep with rfl | rfl <;> exact nofun
      have hgo := toGo_update (length_calls_of_step? hs hne) ht hto.stages
      rw [hone, Stage.toGo] at hgo
      rcases hstep with rfl | rfl <;> simp [Step.ofCaller, Step.isCall, hgo]

theorem Ended.toGo_run {q q' : Queue} {rest : List Step} (h : Ended q)
    (hr : q.run? rest = some q') :
    rest.countP Step.ofCaller + q'.toGo ≤ q.toGo + 2 * rest.countP Step.isCall := by
  induction rest generalizing q with
  | nil =>
      obtain rfl := Option.some.inj hr
      simp
  | cons s rest ih =>
      obtain ⟨m, hs, hm⟩ := run?_cons hr
      have hstep := h.toGo_step hs
      have hrest := ih (h.step (transition_of_step? hs)) hm
      rw [List.countP_cons, List.countP_cons]
      omega

theorem Ended.exists_step_of_open {q : Queue} (h : Ended q) {i : Nat} {s : Stage}
    (hs : q.stage? i = some s) (hopen : s.isFinal = false) :
    ∃ step q', Step.ofCaller step = true ∧ q.step? step = some q' := by
  rcases Queue.exists_step_of_open h.orderly h.attended hs hopen with ⟨t, ht⟩ | ⟨t, ht⟩
  · obtain ⟨hsome, hcaller⟩ := step?_of_holderStep? h.attended ht
    obtain ⟨q', hq'⟩ := Option.isSome_iff_exists.mp hsome
    exact ⟨t, q', hcaller, hq'⟩
  · obtain ⟨hsome, hworker, -⟩ := step?_of_workerStep? ht
    obtain ⟨q', hq'⟩ := Option.isSome_iff_exists.mp hsome
    cases h.after (transition_of_step? hq') with
    | call _
    | drop _ _
    | enter _ _ _
    | close _ _ _ _
    | late _ _ _ => cases hworker
    | tell _ hstep _ => rcases hstep with rfl | rfl <;> cases hworker

/-! ## The queue goes on until it is closed -/

theorem requested_run {q q' : Queue} {steps : List Step} {i : Nat} {r : Request}
    (hr : q.request? i = some r) (h : q.run? steps = some q') : q'.request? i = some r :=
  run_induction (P := fun m _ => m.request? i = some r) (fun hp ht => requested_step hp ht)
    (l := Ledger.empty) hr h

/-- Only a caller that closes a queue and gets the lock closes it. -/
theorem lock_mem_of_closed {q q' : Queue} {steps : List Step} (hq : q.state ≠ .closed)
    (h : q.run? steps = some q') (hc : q'.state = .closed) :
    ∃ i, q'.request? i = some .close ∧ .lock i ∈ steps := by
  induction steps generalizing q with
  | nil =>
      obtain rfl := Option.some.inj h
      exact absurd hc hq
  | cons s rest ih =>
      obtain ⟨m, hs, hr⟩ := run?_cons h
      by_cases hm : m.state = .closed
      · have ht := transition_of_step? hs
        have hcloses : ∃ i, q.request? i = some .close ∧ s = .lock i := by
          cases ht with
          | close hi _ _ _ _
          | closeIdle hi _ _ _ _ => exact ⟨_, hi, rfl⟩
          | enterFirst _ _ _ _ hto
          | enter _ _ _ _ hto => exact absurd (hto.state.symm.trans hm) nofun
          | turnAway _ _ _ hclosed _
          | exit _ _ hclosed _ => exact absurd hclosed hq
          | call _ hto
          | drop _ _ hto
          | refuse _ _ _ hto
          | send _ _ _ _ hto
          | accept _ _ hto
          | giveUp _ _ hto
          | finish _ _ _ hto
          | receive _ _ hto
          | start _ hto
          | complete _ hto
          | hook _ hto
          | panic _ _ hto
          | panicLosing _ _ hto => exact absurd (hto.state.symm.trans hm) hq
        obtain ⟨i, hi, rfl⟩ := hcloses
        exact ⟨i, requested_run (requested_step hi ht) hr, List.mem_cons_self⟩
      · obtain ⟨i, hi, hmem⟩ := ih hm hr
        exact ⟨i, hi, List.mem_cons_of_mem s hmem⟩

theorem step?_lock_enqueue {q : Queue} {i : Nat} {name : String}
    (hr : q.request? i = some (.enqueue name)) (hs : q.stage? i = some .waiting)
    (hf : q.holder = none) (hq : q.state = .running) :
    ∃ q', q.step? (.lock i) = some q' ∧ q'.holder = some i := by
  obtain ⟨q', hq'⟩ := Option.isSome_iff_exists.mp (step?_lock hs hf)
  refine ⟨q', hq', ?_⟩
  have hc := calls_eq_some_iff.mpr ⟨hr, hs⟩
  simp only [step?, hc, hf, Option.isNone_none, if_true, enter, hq, Option.some.injEq] at hq'
  subst hq'
  rfl

theorem step?_lock_close {q : Queue} {i : Nat} (hr : q.request? i = some .close)
    (hs : q.stage? i = some .waiting) (hf : q.holder = none) :
    ∃ q', q.step? (.lock i) = some q' ∧ q'.state = .closed ∧
      (q'.answer? i = some .closed ∨ q'.holder = some i) := by
  obtain ⟨q', hq'⟩ := Option.isSome_iff_exists.mp (step?_lock hs hf)
  refine ⟨q', hq', ?_⟩
  cases transition_of_step? hq' with
  | close _ _ _ _ hto => exact ⟨hto.state, .inr hto.holder⟩
  | closeIdle _ _ _ _ hto =>
      refine ⟨hto.state, .inl (answer?_eq_some_iff.mpr ?_)⟩
      rw [hto.stages, Function.update_self]
  | enterFirst hr' _ _ _ _
  | enter hr' _ _ _ _
  | turnAway hr' _ _ _ _ =>
      rw [hr] at hr'
      cases hr'

/-- What a panic that led to `p` comes to in a later queue `q`. -/
structure Contained (hooked : Bool) (steps more : List Step) (p q : Queue) : Prop where
  /-- No task is started any more. -/
  started : ((fresh hooked).ledger (steps ++ .panic :: more)).started =
    ((fresh hooked).ledger steps).started
  /-- The queue goes on running until somebody gets the lock to close it. -/
  state : q.state = .running ∨
    (q.state = .closed ∧ ∃ i, q.request? i = some .close ∧ .lock i ∈ steps ++ .panic :: more)
  /-- Whoever has the lock for a task that the worker had not accepted is told that it stopped. -/
  stopped : ∀ i name, q.request? i = some (.enqueue name) → q.holder = some i →
    p.stage? i ≠ some (.confirming .given) → ∀ rest r, q.run? rest = some r →
      Promised r i (.rejected (.workerStopped name))
  /-- Whoever waits for the lock with a task can take it when it is free, before a close. -/
  enters : ∀ i name, q.request? i = some (.enqueue name) → q.stage? i = some .waiting →
    q.holder = none → q.state = .running →
      ∃ q', q.step? (.lock i) = some q' ∧ q'.holder = some i
  /-- Whoever waits for the lock to close the queue can take it when it is free, and closes it. -/
  closes : ∀ i, q.request? i = some .close → q.stage? i = some .waiting → q.holder = none →
    ∃ q', q.step? (.lock i) = some q' ∧ q'.state = .closed ∧
      (q'.answer? i = some .closed ∨ q'.holder = some i)
  /-- Whoever closes the queue returns from it. -/
  closed : ∀ i, q.request? i = some .close → q.holder = some i →
    q.state = .closed ∧ ∀ rest r, q.run? rest = some r → Promised r i .closed
  /-- A queue that is closed stays closed, and whoever waits or comes then is told that it is. -/
  late : q.state = .closed → ∀ rest r, q.run? rest = some r → r.state = .closed ∧
    ∀ i name, q.stage? i = none ∨ q.stage? i = some .waiting →
      r.request? i = some (.enqueue name) →
      r.answer? i = some (.rejected (.closed name)) ∨ r.stage? i = some .dropped ∨
        (r.stage? i = some .waiting ∧ (r.holder = none → ∃ r', r.step? (.lock i) = some r' ∧
          r'.answer? i = some (.rejected (.closed name))))
  /-- Without new calls the callers make so many steps and no more. -/
  bounded : ∀ rest r, q.run? rest = some r →
    rest.countP Step.ofCaller + r.toGo ≤ q.toGo + 2 * rest.countP Step.isCall
  /-- When no caller can go on, everybody has returned or was dropped. -/
  returned : (∀ s, s.ofCaller = true → q.step? s = none) →
    ∀ i s, q.stage? i = some s → s.isFinal = true

theorem ended_of_panic {hooked : Bool} {steps : List Step} {p : Queue}
    (h : (fresh hooked).run? (steps ++ [.panic]) = some p) :
    Ended p ∧ ((fresh hooked).ledger (steps ++ [.panic])).started =
      ((fresh hooked).ledger steps).started := by
  obtain ⟨m, hm, hlast⟩ := run?_split h
  obtain ⟨p', hs, hp'⟩ := run?_cons hlast
  obtain rfl := Option.some.inj hp'
  obtain ⟨ho, ha⟩ := attended_of_run? h
  refine ⟨⟨ho, ha, ?_⟩, ?_⟩
  · cases transition_of_step? hs with
    | panic _ _ hto
    | panicLosing _ _ hto =>
        rw [hto.worker]
        rfl
  · rw [ledger_append hm]
    simp only [Ledger.noteAll, hs]
    exact Ledger.started_note_of_ne _ _ (by simp)

namespace Ended

variable {p q : Queue}

theorem started_noteAll (h : Ended p) {more : List Step} (hm : p.run? more = some q)
    (l : Ledger) : (l.noteAll p more).started = l.started :=
  (run_induction (P := fun r l' => Ended r ∧ l'.started = l.started)
    (fun hp ht => ⟨hp.1.step ht, ((hp.1.after ht).started_note _).trans hp.2⟩) ⟨h, rfl⟩ hm).2

theorem given_run (h : Ended p) {more : List Step} (hm : p.run? more = some q) {i : Nat}
    (hi : p.stage? i ≠ some (.confirming .given)) : q.stage? i ≠ some (.confirming .given) :=
  (run_induction (P := fun r _ => Ended r ∧ r.stage? i ≠ some (.confirming .given))
    (fun hp ht => ⟨hp.1.step ht, fun hg => hp.2 ((hp.1.after ht).given_of_given hg)⟩)
    (l := Ledger.empty) ⟨h, hi⟩ hm).2

theorem running_or_closed (h : Ended q) : q.state = .running ∨ q.state = .closed := by
  cases hq : q.state with
  | created => exact absurd hq h.state_ne_created
  | running => exact .inl rfl
  | closed => exact .inr rfl

theorem late (h : Ended q) (hq : q.state = .closed) {rest : List Step} {r : Queue}
    (hr : q.run? rest = some r) : r.state = .closed ∧
      ∀ i name, q.stage? i = none ∨ q.stage? i = some .waiting →
        r.request? i = some (.enqueue name) →
        r.answer? i = some (.rejected (.closed name)) ∨ r.stage? i = some .dropped ∨
          (r.stage? i = some .waiting ∧ (r.holder = none → ∃ r', r.step? (.lock i) = some r' ∧
            r'.answer? i = some (.rejected (.closed name)))) := by
  have hclosed : r.state = .closed :=
    run_induction (P := fun m _ => m.state = .closed) (fun hp ht => closed_step hp ht)
      (l := Ledger.empty) hq hr
  refine ⟨hclosed, fun i name hi hreq => ?_⟩
  have hout := (run_induction (P := fun m _ => m.state = .closed ∧ ShutOut m i)
    (fun hp ht => ⟨closed_step hp.1 ht, hp.2.step hp.1 ht⟩) (l := Ledger.empty)
    ⟨hq, shutOut_of_waiting q hi⟩ hr).2
  rcases hout name hreq with hw | hd | ha
  · refine .inr (.inr ⟨hw, fun hf => ?_⟩)
    have hrest : AtRest r := ⟨hclosed, hf, Worker.isGone_of_hasEnded (h.run hr).ended⟩
    exact hrest.turn_away hreq hw
  · exact .inr (.inl hd)
  · exact .inl (answer?_eq_some_iff.mpr ha)

end Ended

/-- However callers and worker are interleaved, a panic stays with its task. -/
theorem panic_contained {hooked : Bool} {steps more : List Step} {p q : Queue}
    (h : (fresh hooked).run? (steps ++ [.panic]) = some p) (hm : p.run? more = some q) :
    Contained hooked steps more p q := by
  obtain ⟨hp, hstarted⟩ := ended_of_panic h
  have hq : Ended q := hp.run hm
  have hall : (fresh hooked).run? (steps ++ .panic :: more) = some q := by
    rw [List.append_cons]
    exact run?_append h hm
  refine ⟨?_, ?_, fun i name hr hi hnot rest r hrest => ?_, fun i name => step?_lock_enqueue,
    fun i => step?_lock_close, fun i hr hi => ?_, fun hc rest r => hq.late hc,
    fun rest r => hq.toGo_run, fun hstuck i s hs => ?_⟩
  · rw [List.append_cons, ledger_append h, hp.started_noteAll hm, hstarted]
  · exact hq.running_or_closed.imp id fun hc => ⟨hc, lock_mem_of_closed (by simp [fresh]) hall hc⟩
  · exact (hq.owed_of_enqueue hi hr (hp.given_run hm hnot)).promised hq hrest
  · obtain ⟨howed, hc⟩ := hq.owed_of_close hi hr
    exact ⟨hc, fun rest r hrest => howed.promised hq hrest⟩
  · by_contra hopen
    obtain ⟨t, q', ht, hstep⟩ := hq.exists_step_of_open hs (Bool.eq_false_iff.mpr hopen)
    rw [hstuck t ht] at hstep
    cases hstep

/-- A task panics while the buffer has the task of a caller that was dropped and another caller
waits for room. Neither of the two is run, and the one that waits hears that the worker stopped. -/
theorem panic_contained_orphan : ∃ steps p, (fresh true).run? (steps ++ [.panic]) = some p ∧
    p.stage? 1 = some .dropped ∧ p.stage? 2 = some .sending ∧
    ∀ more q, p.run? more = some q →
      ((fresh true).ledger (steps ++ .panic :: more)).started = [0] ∧
        Promised q 2 (.rejected (.workerStopped "second")) := by
  have hrun : (fresh true).run? ([.call (.enqueue "first"), .lock 0, .send 0, .receive, .answer 0,
      .start, .call (.enqueue "orphan"), .lock 1, .send 1, .drop 1, .call (.enqueue "second"),
      .lock 2] ++ [.panic]) = some ⟨.running, some 2, none, .panicked, true,
        [⟨.enqueue "first", .returned .accepted⟩, ⟨.enqueue "orphan", .dropped⟩,
          ⟨.enqueue "second", .sending⟩]⟩ := rfl
  have hnow : Contained true _ [] _ _ := panic_contained hrun rfl
  refine ⟨_, _, hrun, rfl, rfl, fun more q hm => ⟨(panic_contained hrun hm).started, ?_⟩⟩
  exact hnow.stopped 2 "second" rfl rfl (by simp [stage?]) more q hm

end HostInventory.Queue
