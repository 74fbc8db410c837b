import HostInventory.Queue.Basic
import Mathlib.Logic.Function.Basic

/-!
# What one step of a queue does

The inversion of `Queue.step?`: one constructor of `Transition` for each way in which a step can
go, with the condition under which it can be made and everything that it changes. A queue is seen
through its parts here - the stage of each caller, the state, the holder of the lock, the buffer
and the worker - so that what a step leaves alone is an equation as well (`Becomes`).

Invariants of queues are proved by cases on `Transition` and never open `Queue.step?`.
-/

namespace HostInventory.Queue

/-! ## Callers -/

def request? (q : Queue) (caller : Nat) : Option Request :=
  q.calls[caller]?.map Call.request

theorem calls_eq_some_iff {q : Queue} {i : Nat} {r : Request} {s : Stage} :
    q.calls[i]? = some ⟨r, s⟩ ↔ q.request? i = some r ∧ q.stage? i = some s := by
  cases h : q.calls[i]? with
  | none => simp [request?, stage?, h]
  | some c =>
      obtain ⟨r', s'⟩ := c
      simp [request?, stage?, h]

theorem stage?_of_length_le {q : Queue} {i : Nat} (h : q.calls.length ≤ i) :
    q.stage? i = none := by
  rw [stage?, List.getElem?_eq_none h]
  rfl

theorem lt_length_of_stage? {q : Queue} {i : Nat} {s : Stage} (h : q.stage? i = some s) :
    i < q.calls.length := by
  refine Nat.lt_of_not_le fun hle => ?_
  rw [stage?_of_length_le hle] at h
  cases h

theorem stage?_of_request? {q : Queue} {i : Nat} {r : Request} (h : q.request? i = some r) :
    ∃ s, q.stage? i = some s := by
  obtain ⟨c, hc, -⟩ := Option.map_eq_some_iff.mp h
  exact ⟨c.stage, by rw [stage?, hc]; rfl⟩

theorem request?_of_stage? {q : Queue} {i : Nat} {s : Stage} (h : q.stage? i = some s) :
    ∃ r, q.request? i = some r := by
  obtain ⟨c, hc, -⟩ := Option.map_eq_some_iff.mp h
  exact ⟨c.request, by rw [request?, hc]; rfl⟩

theorem stage?_setStage {q : Queue} {i : Nat} {s t : Stage} (h : q.stage? i = some t) :
    (q.setStage i s).stage? = Function.update q.stage? i (some s) := by
  obtain ⟨c, hc, rfl⟩ := Option.map_eq_some_iff.mp h
  funext j
  rw [Function.update_apply]
  split
  · rename_i hj
    subst hj
    simp [stage?, setStage, hc]
  · rename_i hj
    simp [stage?, setStage, List.getElem?_modify_ne _ _ (fun he => hj he.symm)]

theorem request?_setStage (q : Queue) (i : Nat) (s : Stage) :
    (q.setStage i s).request? = q.request? := by
  funext j
  by_cases h : i = j
  · subst h
    cases hc : q.calls[i]? <;> simp [request?, setStage, hc]
  · simp [request?, setStage, List.getElem?_modify_ne _ _ h]

/-! ## The parts of a queue -/

/-- What a queue is after a step, by the parts of it that a step can change. -/
structure Becomes (q q' : Queue) (stages : Nat → Option Stage) (state : QueueState)
    (holder buffer : Option Nat) (worker : Worker) : Prop where
  stages : q'.stage? = stages
  state : q'.state = state
  holder : q'.holder = holder
  buffer : q'.buffer = buffer
  worker : q'.worker = worker
  requests : ∀ i, i < q.calls.length → q'.request? i = q.request? i
  length : q.calls.length ≤ q'.calls.length

theorem becomes_of_calls_eq {q q' : Queue} (h : q'.calls = q.calls) :
    q.Becomes q' q.stage? q'.state q'.holder q'.buffer q'.worker := by
  refine ⟨?_, rfl, rfl, rfl, rfl, fun j _ => ?_, Nat.le_of_eq (by rw [h])⟩
  · funext j
    simp only [stage?, h]
  · simp only [request?, h]

theorem becomes_setStage {q q' : Queue} {i : Nat} {s t : Stage} (h : q.stage? i = some t)
    (hc : q'.calls = (q.setStage i s).calls) :
    q.Becomes q' (Function.update q.stage? i (some s)) q'.state q'.holder q'.buffer
      q'.worker := by
  have hb := becomes_of_calls_eq hc
  refine ⟨hb.stages.trans (stage?_setStage h), rfl, rfl, rfl, rfl, fun j hj => ?_, ?_⟩
  · rw [hb.requests j (by simpa [setStage] using hj), request?_setStage]
  · simp [hc, setStage]

/-- The stages of the callers when the promise to one of them is resolved. -/
def settled (q : Queue) (caller : Nat) (c : Confirmation) : Nat → Option Stage :=
  if q.stage? caller = some (.confirming .pending) then
    Function.update q.stage? caller (some (.confirming c))
  else q.stage?

theorem settled_apply (q : Queue) (t j : Nat) (c : Confirmation) :
    q.settled t c j = if j = t ∧ q.stage? t = some (.confirming .pending) then
      some (.confirming c) else q.stage? j := by
  unfold settled
  by_cases ht : q.stage? t = some (.confirming .pending)
  · rw [if_pos ht, Function.update_apply]
    simp only [ht, and_true]
  · rw [if_neg ht, if_neg fun h => ht h.2]

/-- Where a caller stands after a promise is resolved: where it stood, or past its promise. -/
theorem settled_eq_some {q : Queue} {t j : Nat} {c : Confirmation} {s : Stage}
    (h : q.settled t c j = some s) :
    q.stage? j = some s ∨
      (j = t ∧ q.stage? j = some (.confirming .pending) ∧ s = .confirming c) := by
  rw [settled_apply] at h
  split at h
  · rename_i hj
    obtain ⟨rfl, hp⟩ := hj
    exact Or.inr ⟨rfl, hp, (Option.some.inj h).symm⟩
  · exact Or.inl h

theorem resolve_state (q : Queue) (t : Nat) (c : Confirmation) :
    (q.resolve t c).state = q.state := by
  unfold resolve
  split <;> rfl

theorem resolve_holder (q : Queue) (t : Nat) (c : Confirmation) :
    (q.resolve t c).holder = q.holder := by
  unfold resolve
  split <;> rfl

theorem becomes_resolve (q : Queue) (t : Nat) (c : Confirmation) (w : Worker) :
    q.Becomes { q.resolve t c with buffer := none, worker := w } (q.settled t c) q.state q.holder
      none w := by
  rw [← resolve_state q t c, ← resolve_holder q t c]
  unfold settled
  split
  · rename_i ht
    exact becomes_setStage ht (by rw [resolve, if_pos ht])
  · rename_i ht
    exact becomes_of_calls_eq (by rw [resolve, if_neg ht])

theorem becomes_call (q : Queue) (r : Request) :
    q.Becomes { q with calls := q.calls ++ [⟨r, .waiting⟩] }
      (Function.update q.stage? q.calls.length (some .waiting)) q.state q.holder q.buffer
      q.worker := by
  refine ⟨?_, rfl, rfl, rfl, rfl, fun j hj => ?_, by simp⟩
  · funext j
    rw [Function.update_apply]
    rcases Nat.lt_trichotomy j q.calls.length with hj | rfl | hj
    · rw [if_neg (by omega)]
      simp [stage?, List.getElem?_append_left hj]
    · simp [stage?]
    · rw [if_neg (by omega), stage?_of_length_le (Nat.le_of_lt hj), stage?_of_length_le]
      simp only [List.length_append, List.length_singleton]
      omega
  · simp [request?, List.getElem?_append_left hj]

/-! ## Steps -/

/-- What each step does, and when it can be made. -/
inductive Transition (q q' : Queue) : Step → Prop where
  | call {r : Request} (hr : q'.request? q.calls.length = some r)
      (hto : q.Becomes q' (Function.update q.stage? q.calls.length (some .waiting)) q.state
        q.holder q.buffer q.worker) :
      Transition q q' (.call r)
  | drop {i : Nat} {s : Stage} (hs : q.stage? i = some s) (hr : ∀ a, s ≠ .returned a)
      (hto : q.Becomes q' (Function.update q.stage? i (some .dropped)) q.state
        (if q.holder = some i then none else q.holder) q.buffer q.worker) :
      Transition q q' (.drop i)
  /-- The first task starts the worker. -/
  | enterFirst {i : Nat} {name : String} (hr : q.request? i = some (.enqueue name))
      (hs : q.stage? i = some .waiting) (hf : q.holder = none) (hq : q.state = .created)
      (hto : q.Becomes q' (Function.update q.stage? i (some .sending)) .running (some i) q.buffer
        .idle) :
      Transition q q' (.lock i)
  | enter {i : Nat} {name : String} (hr : q.request? i = some (.enqueue name))
      (hs : q.stage? i = some .waiting) (hf : q.holder = none) (hq : q.state = .running)
      (hto : q.Becomes q' (Function.update q.stage? i (some .sending)) .running (some i) q.buffer
        q.worker) :
      Transition q q' (.lock i)
  | turnAway {i : Nat} {name : String} (hr : q.request? i = some (.enqueue name))
      (hs : q.stage? i = some .waiting) (hf : q.holder = none) (hq : q.state = .closed)
      (hto : q.Becomes q' (Function.update q.stage? i (some (.returned (.rejected (.closed name)))))
        .closed none q.buffer q.worker) :
      Transition q q' (.lock i)
  | close {i : Nat} (hr : q.request? i = some .close)
      (hs : q.stage? i = some .waiting) (hf : q.holder = none) (hq : q.state = .running)
      (hto : q.Becomes q' (Function.update q.stage? i (some .joining)) .closed (some i) q.buffer
        q.worker) :
      Transition q q' (.lock i)
  /-- Nothing runs that would have to end. -/
  | closeIdle {i : Nat} (hr : q.request? i = some .close)
      (hs : q.stage? i = some .waiting) (hf : q.holder = none) (hq : q.state ≠ .running)
      (hto : q.Becomes q' (Function.update q.stage? i (some (.returned .closed))) .closed none
        q.buffer q.worker) :
      Transition q q' (.lock i)
  | refuse {i : Nat} {name : String} (hr : q.request? i = some (.enqueue name))
      (hs : q.stage? i = some .sending) (he : q.worker.hasEnded = true)
      (hto : q.Becomes q'
        (Function.update q.stage? i (some (.returned (.rejected (.workerStopped name))))) q.state
        none q.buffer q.worker) :
      Transition q q' (.send i)
  | send {i : Nat} {name : String} (hr : q.request? i = some (.enqueue name))
      (hs : q.stage? i = some .sending) (he : q.worker.hasEnded = false) (hb : q.buffer = none)
      (hto : q.Becomes q' (Function.update q.stage? i (some (.confirming .pending))) q.state
        q.holder (some i) q.worker) :
      Transition q q' (.send i)
  | accept {i : Nat} {name : String} (hr : q.request? i = some (.enqueue name))
      (hs : q.stage? i = some (.confirming .given))
      (hto : q.Becomes q' (Function.update q.stage? i (some (.returned .accepted))) q.state none
        q.buffer q.worker) :
      Transition q q' (.answer i)
  | giveUp {i : Nat} {name : String} (hr : q.request? i = some (.enqueue name))
      (hs : q.stage? i = some (.confirming .lost))
      (hto : q.Becomes q'
        (Function.update q.stage? i (some (.returned (.rejected (.workerStopped name))))) q.state
        none q.buffer q.worker) :
      Transition q q' (.answer i)
  | finish {i : Nat} (hr : q.request? i = some .close) (hs : q.stage? i = some .joining)
      (he : q.worker.hasEnded = true)
      (hto : q.Becomes q' (Function.update q.stage? i (some (.returned .closed))) q.state none
        q.buffer q.worker) :
      Transition q q' (.answer i)
  | receive {t : Nat} (hw : q.worker = .idle) (hb : q.buffer = some t)
      (hto : q.Becomes q' (q.settled t .given) q.state q.holder none (.taken t)) :
      Transition q q' .receive
  | start {t : Nat} (hw : q.worker = .taken t)
      (hto : q.Becomes q' q.stage? q.state q.holder q.buffer (.running t)) :
      Transition q q' .start
  | complete {t : Nat} (hw : q.worker = .running t)
      (hto : q.Becomes q' q.stage? q.state q.holder q.buffer
        (if q.hooked then .completed t else .idle)) :
      Transition q q' .complete
  | hook {t : Nat} (hw : q.worker = .completed t)
      (hto : q.Becomes q' q.stage? q.state q.holder q.buffer .idle) :
      Transition q q' .hook
  | panic {t : Nat} (hw : q.worker = .running t ∨ q.worker = .completed t)
      (hb : q.buffer = none)
      (hto : q.Becomes q' q.stage? q.state q.holder none .panicked) :
      Transition q q' .panic
  /-- What stands in the buffer goes down with the worker. -/
  | panicLosing {t u : Nat} (hw : q.worker = .running t ∨ q.worker = .completed t)
      (hb : q.buffer = some u)
      (hto : q.Becomes q' (q.settled u .lost) q.state q.holder none .panicked) :
      Transition q q' .panic
  | exit (hw : q.worker = .idle) (hb : q.buffer = none) (hq : q.state = .closed)
      (hto : q.Becomes q' q.stage? .closed q.holder none .exited) :
      Transition q q' .exit

theorem transition_enter {q : Queue} {i : Nat} {r : Request} (hr : q.request? i = some r)
    (hs : q.stage? i = some .waiting) (hf : q.holder = none) :
    Transition q (q.enter i r) (.lock i) := by
  cases r with
  | enqueue name =>
      cases hq : q.state with
      | created =>
          simp only [enter, hq]
          exact .enterFirst hr hs hf hq (becomes_setStage hs rfl)
      | running =>
          simp only [enter, hq]
          exact .enter hr hs hf hq (hq ▸ becomes_setStage hs rfl)
      | closed =>
          simp only [enter, hq]
          exact .turnAway hr hs hf hq (hq ▸ becomes_setStage hs rfl)
  | close =>
      cases hq : q.state with
      | created =>
          simp only [enter, hq]
          exact .closeIdle hr hs hf (by simp [hq]) (becomes_setStage hs rfl)
      | running =>
          simp only [enter, hq]
          exact .close hr hs hf hq (becomes_setStage hs rfl)
      | closed =>
          simp only [enter, hq]
          exact .closeIdle hr hs hf (by simp [hq]) (hq ▸ becomes_setStage hs rfl)

theorem transition_answer {q : Queue} {i : Nat} {r : Request} {s : Stage} {a : Answer}
    (hr : q.request? i = some r) (hs : q.stage? i = some s) (ha : q.due? ⟨r, s⟩ = some a) :
    Transition q (q.giveAnswer i a) (.answer i) := by
  unfold due? at ha
  split at ha
  · rename_i name heq
    obtain ⟨rfl, rfl⟩ := Call.mk.inj heq
    obtain rfl := Option.some.inj ha
    exact .accept hr hs (becomes_setStage hs rfl)
  · rename_i name heq
    obtain ⟨rfl, rfl⟩ := Call.mk.inj heq
    obtain rfl := Option.some.inj ha
    exact .giveUp hr hs (becomes_setStage hs rfl)
  · rename_i heq
    obtain ⟨rfl, rfl⟩ := Call.mk.inj heq
    split at ha
    · rename_i he
      obtain rfl := Option.some.inj ha
      exact .finish hr hs he (becomes_setStage hs rfl)
    · cases ha
  · cases ha

theorem transition_crash {q : Queue} {t : Nat}
    (hw : q.worker = .running t ∨ q.worker = .completed t) : Transition q q.crash .panic := by
  cases hb : q.buffer with
  | none =>
      simp only [crash, hb]
      exact .panic hw hb (hb ▸ becomes_of_calls_eq rfl)
  | some u =>
      simp only [crash, hb]
      exact .panicLosing hw hb (becomes_resolve q u .lost .panicked)

/-- Every step that is made is a transition. -/
theorem transition_of_step? {q q' : Queue} {s : Step} (h : q.step? s = some q') :
    Transition q q' s := by
  cases s with
  | call r =>
      obtain rfl := Option.some.inj h
      exact .call (by simp [request?]) (becomes_call q r)
  | drop i =>
      simp only [step?] at h
      split at h
      · cases h
      · cases h
      · cases h
      · rename_i s hr _ hs
        obtain rfl := Option.some.inj h
        refine .drop hs (fun a ha => hr a ha) ?_
        unfold unlockBy
        split
        · rename_i hh
          rw [if_pos (show q.holder = some i from hh)]
          exact becomes_setStage hs rfl
        · rename_i hh
          rw [if_neg (show q.holder ≠ some i from hh)]
          exact becomes_setStage hs rfl
  | lock i =>
      simp only [step?] at h
      split at h
      · rename_i r hc
        obtain ⟨hr, hs⟩ := calls_eq_some_iff.mp hc
        split at h
        · rename_i hf
          obtain rfl := Option.some.inj h
          exact transition_enter hr hs (Option.isNone_iff_eq_none.mp hf)
        · cases h
      · cases h
  | send i =>
      simp only [step?] at h
      split at h
      · rename_i name hc
        obtain ⟨hr, hs⟩ := calls_eq_some_iff.mp hc
        split at h
        · rename_i he
          obtain rfl := Option.some.inj h
          exact .refuse hr hs he (becomes_setStage hs rfl)
        · rename_i he
          split at h
          · rename_i hb
            obtain rfl := Option.some.inj h
            exact .send hr hs (Bool.eq_false_iff.mpr he) (Option.isNone_iff_eq_none.mp hb)
              (becomes_setStage hs rfl)
          · cases h
      · cases h
  | answer i =>
      simp only [step?] at h
      split at h
      · rename_i c hc
        obtain ⟨r, s⟩ := c
        obtain ⟨hr, hs⟩ := calls_eq_some_iff.mp hc
        obtain ⟨a, ha, rfl⟩ := Option.map_eq_some_iff.mp h
        exact transition_answer hr hs ha
      · cases h
  | receive =>
      simp only [step?] at h
      split at h
      · rename_i t hw hb
        obtain rfl := Option.some.inj h
        exact .receive hw hb (becomes_resolve q t .given (.taken t))
      · cases h
  | start =>
      simp only [step?] at h
      split at h
      · rename_i t hw
        obtain rfl := Option.some.inj h
        exact .start hw (becomes_of_calls_eq rfl)
      · cases h
  | complete =>
      simp only [step?] at h
      split at h
      · rename_i t hw
        obtain rfl := Option.some.inj h
        exact .complete hw (becomes_of_calls_eq rfl)
      · cases h
  | hook =>
      simp only [step?] at h
      split at h
      · rename_i t hw
        obtain rfl := Option.some.inj h
        exact .hook hw (becomes_of_calls_eq rfl)
      · cases h
  | panic =>
      simp only [step?] at h
      split at h
      · rename_i t hw
        obtain rfl := Option.some.inj h
        exact transition_crash (.inl hw)
      · rename_i t hw
        obtain rfl := Option.some.inj h
        exact transition_crash (.inr hw)
      · cases h
  | exit =>
      simp only [step?] at h
      split at h
      · rename_i hw hb hq
        obtain rfl := Option.some.inj h
        exact .exit hw hb hq (hq ▸ hb ▸ becomes_of_calls_eq rfl)
      · cases h

/-! ## What every step leaves alone -/

@[simp, grind =] theorem hooked_setStage (q : Queue) (i : Nat) (s : Stage) :
    (q.setStage i s).hooked = q.hooked :=
  rfl

@[simp, grind =] theorem hooked_giveAnswer (q : Queue) (i : Nat) (a : Answer) :
    (q.giveAnswer i a).hooked = q.hooked :=
  rfl

@[simp, grind =] theorem hooked_unlockBy (q : Queue) (i : Nat) :
    (q.unlockBy i).hooked = q.hooked := by
  unfold unlockBy
  split <;> rfl

@[simp, grind =] theorem hooked_enter (q : Queue) (i : Nat) (r : Request) :
    (q.enter i r).hooked = q.hooked := by
  unfold enter
  split <;> rfl

@[simp, grind =] theorem hooked_resolve (q : Queue) (t : Nat) (c : Confirmation) :
    (q.resolve t c).hooked = q.hooked := by
  unfold resolve
  split <;> rfl

@[simp, grind =] theorem hooked_crash (q : Queue) : q.crash.hooked = q.hooked := by
  unfold crash
  split
  · exact hooked_resolve q _ _
  · rfl

/-- A queue keeps its hook, or goes without one. -/
theorem hooked_of_step? {q q' : Queue} {s : Step} (h : q.step? s = some q') :
    q'.hooked = q.hooked := by
  cases s with
  | answer i =>
      simp only [step?] at h
      split at h
      · obtain ⟨a, -, rfl⟩ := Option.map_eq_some_iff.mp h
        rfl
      · cases h
  | _ =>
      simp only [step?] at h
      grind

@[simp, grind =] theorem length_calls_setStage (q : Queue) (i : Nat) (s : Stage) :
    (q.setStage i s).calls.length = q.calls.length :=
  List.length_modify _ _ _

@[simp, grind =] theorem length_calls_giveAnswer (q : Queue) (i : Nat) (a : Answer) :
    (q.giveAnswer i a).calls.length = q.calls.length :=
  length_calls_setStage q i _

@[simp, grind =] theorem length_calls_unlockBy (q : Queue) (i : Nat) :
    (q.unlockBy i).calls.length = q.calls.length := by
  unfold unlockBy
  split <;> rfl

@[simp, grind =] theorem length_calls_enter (q : Queue) (i : Nat) (r : Request) :
    (q.enter i r).calls.length = q.calls.length := by
  unfold enter
  split <;> simp

@[simp, grind =] theorem length_calls_resolve (q : Queue) (t : Nat) (c : Confirmation) :
    (q.resolve t c).calls.length = q.calls.length := by
  unfold resolve
  split <;> simp

@[simp, grind =] theorem length_calls_crash (q : Queue) :
    q.crash.calls.length = q.calls.length := by
  unfold crash
  split
  · exact length_calls_resolve q _ _
  · rfl

/-- Nobody comes to the queue but by calling it. -/
theorem length_calls_of_step? {q q' : Queue} {s : Step} (h : q.step? s = some q')
    (hs : ∀ r, s ≠ .call r) : q'.calls.length = q.calls.length := by
  cases s with
  | call r => exact absurd rfl (hs r)
  | answer i =>
      simp only [step?] at h
      split at h
      · obtain ⟨a, -, rfl⟩ := Option.map_eq_some_iff.mp h
        exact length_calls_giveAnswer q i a
      · cases h
  | _ =>
      simp only [step?] at h
      grind

theorem request?_step {q q' : Queue} {s : Step} {i : Nat} (hi : i < q.calls.length)
    (ht : Transition q q' s) : q'.request? i = q.request? i := by
  cases ht with
  | call _ hto
  | drop _ _ hto
  | enterFirst _ _ _ _ hto
  | enter _ _ _ _ hto
  | turnAway _ _ _ _ hto
  | close _ _ _ _ hto
  | closeIdle _ _ _ _ hto
  | refuse _ _ _ hto
  | send _ _ _ _ hto
  | accept _ _ hto
  | giveUp _ _ hto
  | finish _ _ _ hto
  | receive _ _ hto
  | start _ hto
  | complete _ hto
  | hook _ hto
  | panic _ _ hto
  | panicLosing _ _ hto
  | exit _ _ _ hto => exact hto.requests i hi

/-- Whoever calls the queue stays there. -/
theorem requested_step {q q' : Queue} {s : Step} {i : Nat} {r : Request}
    (hr : q.request? i = some r) (ht : Transition q q' s) : q'.request? i = some r := by
  obtain ⟨_, hi⟩ := stage?_of_request? hr
  exact (request?_step (lt_length_of_stage? hi) ht).trans hr

/-- A closed queue stays closed. -/
theorem closed_step {q q' : Queue} {s : Step} (hq : q.state = .closed)
    (ht : Transition q q' s) : q'.state = .closed := by
  cases ht with
  | enterFirst _ _ _ hc hto
  | enter _ _ _ hc hto =>
      rw [hq] at hc
      cases hc
  | turnAway _ _ _ _ hto
  | close _ _ _ _ hto
  | closeIdle _ _ _ _ hto
  | exit _ _ _ hto => exact hto.state
  | call _ hto
  | drop _ _ hto
  | refuse _ _ _ hto
  | send _ _ _ _ hto
  | accept _ _ hto
  | giveUp _ _ hto
  | finish _ _ _ hto
  | receive _ _ hto
  | start _ hto
  | complete _ hto
  | hook _ hto
  | panic _ _ hto
  | panicLosing _ _ hto => exact hto.state.trans hq

/-- Whether a caller at a stage is done with the queue. -/
def Stage.isFinal : Stage → Bool
  | returned _ => true
  | dropped => true
  | _ => false

theorem settled_of_ne {q : Queue} {t j : Nat} {c : Confirmation} {s : Stage}
    (hj : q.stage? j = some s) (hs : s ≠ .confirming .pending) : q.settled t c j = some s := by
  rw [settled_apply, if_neg, hj]
  rintro ⟨rfl, hp⟩
  exact hs (Option.some.inj (hj.symm.trans hp))

/-- Where a caller stands after a step: where it stood before, where everybody begins, or further
on. Only a caller that is dropped is dropped. -/
theorem stage?_of_step {q q' : Queue} {s : Step} {j : Nat} {t : Stage}
    (hj : q'.stage? j = some t) (ht : Transition q q' s) :
    q.stage? j = some t ∨ (∃ r, s = .call r ∧ q.stage? j = none ∧ t = .waiting) ∨
      ∃ u, q.stage? j = some u ∧ u.isFinal = false ∧ (t = .dropped → s = .drop j) := by
  have hupdate : ∀ {i : Nat} {u v : Stage}, q'.stage? = Function.update q.stage? i (some v) →
      q.stage? i = some u → u.isFinal = false → v ≠ .dropped →
      q.stage? j = some t ∨ (∃ r, s = .call r ∧ q.stage? j = none ∧ t = .waiting) ∨
        ∃ u, q.stage? j = some u ∧ u.isFinal = false ∧ (t = .dropped → s = .drop j) := by
    intro i u v hstages hs hu hv
    rw [hstages, Function.update_apply] at hj
    split at hj
    · rename_i hji
      subst hji
      obtain rfl := Option.some.inj hj
      exact .inr (.inr ⟨u, hs, hu, fun hd => absurd hd hv⟩)
    · exact .inl hj
  cases ht with
  | @call r _ hto =>
      rw [hto.stages, Function.update_apply] at hj
      split at hj
      · rename_i hnew
        exact .inr (.inl ⟨r, rfl, stage?_of_length_le (Nat.le_of_eq hnew.symm),
          (Option.some.inj hj).symm⟩)
      · exact .inl hj
  | @drop i u hs hr hto =>
      rw [hto.stages, Function.update_apply] at hj
      split at hj
      · rename_i hji
        subst hji
        obtain rfl := Option.some.inj hj
        cases u with
        | returned a => exact absurd rfl (hr a)
        | dropped => exact .inl hs
        | _ => exact .inr (.inr ⟨_, hs, rfl, fun _ => rfl⟩)
      · exact .inl hj
  | enterFirst _ hs _ _ hto
  | enter _ hs _ _ hto
  | turnAway _ hs _ _ hto
  | close _ hs _ _ hto
  | closeIdle _ hs _ _ hto
  | refuse _ hs _ hto
  | send _ hs _ _ hto
  | accept _ hs hto
  | giveUp _ hs hto
  | finish _ hs _ hto => exact hupdate hto.stages hs rfl nofun
  | receive _ _ hto
  | panicLosing _ _ hto =>
      rw [hto.stages] at hj
      rcases settled_eq_some hj with hj | ⟨-, hp, rfl⟩
      · exact .inl hj
      · exact .inr (.inr ⟨_, hp, rfl, nofun⟩)
  | start _ hto
  | complete _ hto
  | hook _ hto
  | panic _ _ hto
  | exit _ _ _ hto =>
      rw [hto.stages] at hj
      exact .inl hj

/-- Whoever is done with the queue stays so, with the same answer. -/
theorem stage?_step {q q' : Queue} {s : Step} {j : Nat} {t : Stage} (hj : q.stage? j = some t)
    (hf : t.isFinal = true) (ht : Transition q q' s) : q'.stage? j = some t := by
  obtain ⟨r, hr⟩ := request?_of_stage? hj
  obtain ⟨u, hu⟩ := stage?_of_request? (requested_step hr ht)
  rcases stage?_of_step hu ht with hq | ⟨_, -, hnone, -⟩ | ⟨v, hv, hopen, -⟩
  · rw [hu, ← hq, hj]
  · rw [hj] at hnone
    cases hnone
  · obtain rfl := Option.some.inj (hj.symm.trans hv)
    rw [hf] at hopen
    cases hopen

/-- Nobody arrives but to wait. -/
theorem stage?_step_of_none {q q' : Queue} {s : Step} {j : Nat} (hj : q.stage? j = none)
    (ht : Transition q q' s) : q'.stage? j = none ∨ q'.stage? j = some .waiting := by
  cases hs : q'.stage? j with
  | none => exact Or.inl rfl
  | some t =>
      rcases stage?_of_step hs ht with hq | ⟨_, -, -, rfl⟩ | ⟨u, hu, -⟩
      · rw [hj] at hq
        cases hq
      · exact Or.inr rfl
      · rw [hj] at hu
        cases hu

end HostInventory.Queue
