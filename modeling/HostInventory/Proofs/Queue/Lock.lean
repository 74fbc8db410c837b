import HostInventory.Proofs.Queue.Ledger

/-!
# Who holds the lock of a queue

Callers wait for the worker with the lock in their hands, so at most one of them is past the lock
at any time, and the state that it found there stays until it lets go. `Orderly` says so, and ties
the state to the worker: there is a worker exactly when a task was ever brought, and it does not end
by itself while the queue is running. Every step preserves it (`Orderly.step`).
-/

namespace HostInventory.Queue

/-- Whether a caller at a stage holds the lock. -/
def Stage.holdsLock : Stage → Bool
  | sending => true
  | confirming _ => true
  | joining => true
  | _ => false

/-- Whether a caller at a stage is bringing a task. -/
def Stage.bringsTask : Stage → Bool
  | sending => true
  | confirming _ => true
  | _ => false

/-- The lock and the state fit the stages of the callers and the worker. -/
structure Orderly (q : Queue) : Prop where
  lock : ∀ {i : Nat} {s : Stage}, q.stage? i = some s → s.holdsLock = true → q.holder = some i
  held : ∀ {i : Nat}, q.holder = some i → ∃ s, q.stage? i = some s ∧ s.holdsLock = true
  brings : ∀ {i : Nat} {s : Stage}, q.stage? i = some s → s.bringsTask = true →
    q.state = .running
  created : q.state = .created → q.worker = .absent
  running : q.state = .running → q.worker ≠ .absent ∧ q.worker ≠ .exited

theorem Stage.holdsLock_of_bringsTask {s : Stage} (h : s.bringsTask = true) :
    s.holdsLock = true := by
  cases s <;> first | rfl | cases h

theorem orderly_fresh (hooked : Bool) : Orderly (fresh hooked) where
  lock := nofun
  held := nofun
  brings := nofun
  created := fun _ => rfl
  running := nofun

namespace Orderly

variable {q q' : Queue}

/-- With a free lock nobody is past it. -/
theorem not_holdsLock (h : Orderly q) (hf : q.holder = none) {i : Nat} {s : Stage}
    (hs : q.stage? i = some s) : s.holdsLock = false := by
  cases hl : s.holdsLock with
  | false => rfl
  | true =>
      have := h.lock hs hl
      rw [hf] at this
      cases this

/-- A step of one caller. The state changes only under a lock that was free. -/
theorem update (h : Orderly q) {i : Nat} {s : Stage} {state : QueueState}
    {holder buffer : Option Nat} {worker : Worker}
    (hto : q.Becomes q' (Function.update q.stage? i (some s)) state holder buffer worker)
    (hown : holder = some i ↔ s.holdsLock = true)
    (hother : ∀ j, j ≠ i → (holder = some j ↔ q.holder = some j))
    (hbrings : s.bringsTask = true → state = .running)
    (hstate : state = q.state ∨ q.holder = none)
    (hcreated : state = .created → worker = .absent)
    (hrunning : state = .running → worker ≠ .absent ∧ worker ≠ .exited) : Orderly q' := by
  have hstage : ∀ {j : Nat} {t : Stage}, q'.stage? j = some t →
      (j = i ∧ t = s) ∨ (j ≠ i ∧ q.stage? j = some t) := fun {j t} hj => by
    rw [hto.stages, Function.update_apply] at hj
    split at hj
    · exact Or.inl ⟨‹j = i›, (Option.some.inj hj).symm⟩
    · exact Or.inr ⟨‹j ≠ i›, hj⟩
  refine ⟨fun {j t} hj ht => ?_, fun {j} hj => ?_, fun {j t} hj ht => ?_, ?_, ?_⟩
  · rw [hto.holder]
    rcases hstage hj with ⟨rfl, rfl⟩ | ⟨hne, hj⟩
    · exact hown.mpr ht
    · exact (hother j hne).mpr (h.lock hj ht)
  · rw [hto.holder] at hj
    rw [hto.stages, Function.update_apply]
    split
    · rename_i hji
      subst hji
      exact ⟨s, rfl, hown.mp hj⟩
    · rename_i hne
      exact h.held ((hother j hne).mp hj)
  · rw [hto.state]
    rcases hstage hj with ⟨rfl, rfl⟩ | ⟨hne, hj⟩
    · exact hbrings ht
    · rcases hstate with rfl | hf
      · exact h.brings hj ht
      · have hl := h.not_holdsLock hf hj
        rw [Stage.holdsLock_of_bringsTask ht] at hl
        cases hl
  · rw [hto.state, hto.worker]
    exact hcreated
  · rw [hto.state, hto.worker]
    exact hrunning

/-- The holder of the lock returns. -/
theorem release (h : Orderly q) {i : Nat} {s : Stage} {a : Answer} {buffer : Option Nat}
    (hs : q.stage? i = some s) (hl : s.holdsLock = true)
    (hto : q.Becomes q' (Function.update q.stage? i (some (.returned a))) q.state none buffer
      q.worker) : Orderly q' := by
  refine h.update hto ⟨nofun, nofun⟩ (fun j hj => ?_)
    nofun (Or.inl rfl) h.created h.running
  rw [h.lock hs hl]
  exact ⟨nofun, fun hn => absurd (Option.some.inj hn).symm hj⟩

/-- A step of the worker. Whoever waits for it goes on waiting, or is told with the lock still in
its hands. -/
theorem ofWorker (h : Orderly q) {stages : Nat → Option Stage} {buffer : Option Nat}
    {worker : Worker} (hto : q.Becomes q' stages q.state q.holder buffer worker)
    (hstages : stages = q.stage? ∨ ∃ t c, stages = q.settled t c)
    (hw : q.worker ≠ .absent) (hw' : worker ≠ .absent)
    (hexit : q.state = .running → worker ≠ .exited) : Orderly q' := by
  have hback : ∀ {j : Nat} {s' : Stage}, stages j = some s' →
      ∃ s, q.stage? j = some s ∧ s.holdsLock = s'.holdsLock ∧ s.bringsTask = s'.bringsTask :=
    fun {j s'} hj => by
      rcases hstages with rfl | ⟨t, c, rfl⟩
      · exact ⟨s', hj, rfl, rfl⟩
      · rcases settled_eq_some hj with hj | ⟨-, hp, rfl⟩
        · exact ⟨s', hj, rfl, rfl⟩
        · exact ⟨_, hp, rfl, rfl⟩
  have hforth : ∀ {j : Nat} {s : Stage}, q.stage? j = some s →
      ∃ s', stages j = some s' ∧ s'.holdsLock = s.holdsLock := fun {j s} hj => by
    rcases hstages with rfl | ⟨t, c, rfl⟩
    · exact ⟨s, hj, rfl⟩
    · rw [settled_apply]
      split
      · rename_i hp
        obtain ⟨rfl, hp⟩ := hp
        obtain rfl := Option.some.inj (hj.symm.trans hp)
        exact ⟨_, rfl, rfl⟩
      · exact ⟨s, hj, rfl⟩
  refine ⟨fun {j t} hj ht => ?_, fun {j} hj => ?_, fun {j t} hj ht => ?_, fun hc => ?_,
    fun hr => ⟨?_, ?_⟩⟩
  · rw [hto.stages] at hj
    obtain ⟨s, hs, hl, -⟩ := hback hj
    rw [hto.holder]
    exact h.lock hs (hl.trans ht)
  · rw [hto.holder] at hj
    obtain ⟨s, hs, hl⟩ := h.held hj
    obtain ⟨s', hs', hl'⟩ := hforth hs
    exact ⟨s', by rw [hto.stages]; exact hs', hl'.trans hl⟩
  · rw [hto.stages] at hj
    obtain ⟨s, hs, -, hb⟩ := hback hj
    rw [hto.state]
    exact h.brings hs (hb.trans ht)
  · rw [hto.state] at hc
    exact absurd (h.created hc) hw
  · rw [hto.worker]
    exact hw'
  · rw [hto.state] at hr
    rw [hto.worker]
    exact hexit hr

theorem step (h : Orderly q) {s : Step} (ht : Transition q q' s) : Orderly q' := by
  cases ht with
  | call _ hto =>
      have hnew : q.holder ≠ some q.calls.length := fun hh => by
        obtain ⟨s, hs, -⟩ := h.held hh
        exact absurd (lt_length_of_stage? hs) (Nat.lt_irrefl _)
      exact h.update hto ⟨fun hh => absurd hh hnew, nofun⟩ (fun _ _ => Iff.rfl)
        nofun (Or.inl rfl) h.created h.running
  | @drop i _ _ _ hto =>
      refine h.update hto ?_ (fun j hj => ?_) nofun (Or.inl rfl) h.created
        h.running
      · split
        · exact ⟨nofun, nofun⟩
        · exact ⟨fun hh => absurd hh ‹_›, nofun⟩
      · split
        · rename_i hh
          rw [hh]
          exact ⟨nofun, fun hn => absurd (Option.some.inj hn).symm hj⟩
        · exact Iff.rfl
  | enterFirst _ _ hf _ hto =>
      refine h.update hto ⟨fun _ => rfl, fun _ => rfl⟩ (fun j hj => ?_) (fun _ => rfl)
        (Or.inr hf) nofun (fun _ => ⟨by simp, by simp⟩)
      rw [hf]
      exact ⟨fun hn => absurd (Option.some.inj hn).symm hj, nofun⟩
  | enter _ _ hf hq hto =>
      refine h.update hto ⟨fun _ => rfl, fun _ => rfl⟩ (fun j hj => ?_) (fun _ => rfl)
        (Or.inr hf) nofun (fun _ => h.running hq)
      rw [hf]
      exact ⟨fun hn => absurd (Option.some.inj hn).symm hj, nofun⟩
  | turnAway _ _ hf _ hto =>
      exact h.update hto ⟨nofun, nofun⟩
        (fun j _ => by rw [hf]) nofun (Or.inr hf) nofun
        nofun
  | close _ _ hf _ hto =>
      refine h.update hto ⟨fun _ => rfl, fun _ => rfl⟩ (fun j hj => ?_) nofun
        (Or.inr hf) nofun nofun
      rw [hf]
      exact ⟨fun hn => absurd (Option.some.inj hn).symm hj, nofun⟩
  | closeIdle _ _ hf _ hto =>
      exact h.update hto ⟨nofun, nofun⟩
        (fun j _ => by rw [hf]) nofun (Or.inr hf) nofun
        nofun
  | send _ hs _ _ hto =>
      exact h.update hto ⟨fun _ => rfl, fun _ => h.lock hs rfl⟩ (fun _ _ => Iff.rfl)
        (fun _ => h.brings hs rfl) (Or.inl rfl) h.created h.running
  | refuse _ hs _ hto => exact h.release hs rfl hto
  | accept _ hs hto => exact h.release hs rfl hto
  | giveUp _ hs hto => exact h.release hs rfl hto
  | finish _ hs _ hto => exact h.release hs rfl hto
  | receive hw _ hto =>
      exact h.ofWorker hto (Or.inr ⟨_, _, rfl⟩) (by simp [hw]) (by simp) (fun _ => by simp)
  | start hw hto => exact h.ofWorker hto (Or.inl rfl) (by simp [hw]) (by simp) (fun _ => by simp)
  | complete hw hto =>
      exact h.ofWorker hto (Or.inl rfl) (by simp [hw]) (by split <;> simp)
        (fun _ => by split <;> simp)
  | hook hw hto => exact h.ofWorker hto (Or.inl rfl) (by simp [hw]) (by simp) (fun _ => by simp)
  | panic hw _ hto =>
      exact h.ofWorker hto (Or.inl rfl) (by rcases hw with hw | hw <;> simp [hw]) (by simp)
        (fun _ => by simp)
  | panicLosing hw _ hto =>
      exact h.ofWorker hto (Or.inr ⟨_, _, rfl⟩) (by rcases hw with hw | hw <;> simp [hw])
        (by simp) (fun _ => by simp)
  | exit hw _ hq hto =>
      refine h.ofWorker (hq ▸ hto) (Or.inl rfl) (by simp [hw]) (by simp) (fun hr => ?_)
      rw [hq] at hr
      cases hr

end Orderly

end HostInventory.Queue
