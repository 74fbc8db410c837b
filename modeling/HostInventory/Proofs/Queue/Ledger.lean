import HostInventory.Proofs.Queue.Transition

/-!
# What tasks go through in a run

A queue does not remember the tasks that its worker has finished with. The ledger of a run does:
which tasks came into the buffer, which were started, which ran to their end and which were lost
with the buffer, each in the order in which it happened. It is kept beside the queue, so what holds
of queue and ledger together is shown by one induction over runs (`run_induction`).
-/

namespace HostInventory.Queue

/-- The task that the worker has taken and is about to start. -/
def Worker.taken? : Worker → Option Nat
  | taken task => some task
  | _ => none

@[simp] theorem Worker.taken?_panicked : Worker.panicked.taken? = none :=
  rfl

/-- A worker that is at a task or done with it has taken no other. -/
theorem Worker.taken?_of_busy {worker : Worker} {t : Nat}
    (h : worker = .running t ∨ worker = .completed t) : worker.taken? = none := by
  rcases h with rfl | rfl <;> rfl

def Worker.running? : Worker → Option Nat
  | running task => some task
  | _ => none

/-- What is kept along a run; `note` tells what a step makes of it. -/
def tally {α : Type} (note : α → Queue → Step → α) (a : α) (q : Queue) : List Step → α
  | [] => a
  | s :: rest =>
    match q.step? s with
    | some q' => tally note (note a q s) q' rest
    | none => a

/-- What has become of the tasks in a run; tasks are named by the numbers of their callers. -/
structure Ledger where
  /-- Came into the buffer. -/
  entered : List Nat
  started : List Nat
  /-- Ran to the end. -/
  completed : List Nat
  /-- Stood in the buffer when the worker panicked. -/
  lost : List Nat
deriving Repr, DecidableEq

namespace Ledger

def empty : Ledger :=
  ⟨[], [], [], []⟩

/-- The ledger after a step from a queue. -/
def note (l : Ledger) (q : Queue) : Step → Ledger
  | .send caller =>
    if q.worker.hasEnded then l else { l with entered := l.entered ++ [caller] }
  | .start => { l with started := l.started ++ q.worker.taken?.toList }
  | .complete => { l with completed := l.completed ++ q.worker.running?.toList }
  | .panic => { l with lost := l.lost ++ q.buffer.toList }
  | _ => l

/-- The ledger after a run from a queue. -/
def noteAll (l : Ledger) (q : Queue) : List Step → Ledger
  | [] => l
  | s :: rest =>
    match q.step? s with
    | some q' => noteAll (l.note q s) q' rest
    | none => l

end Ledger

/-- The ledger of a run from a queue. -/
def ledger (q : Queue) (steps : List Step) : Ledger :=
  Ledger.empty.noteAll q steps

/-! ## Runs -/

theorem run?_cons {q q' : Queue} {s : Step} {rest : List Step}
    (h : q.run? (s :: rest) = some q') :
    ∃ m, q.step? s = some m ∧ m.run? rest = some q' :=
  Option.bind_eq_some_iff.mp h

theorem run?_append {q q' r : Queue} {steps more : List Step} (h : q.run? steps = some q')
    (hm : q'.run? more = some r) : q.run? (steps ++ more) = some r := by
  induction steps generalizing q with
  | nil =>
      obtain rfl := Option.some.inj h
      exact hm
  | cons s rest ih =>
      obtain ⟨m, hs, hr⟩ := run?_cons h
      show (q.step? s).bind (fun q' => q'.run? (rest ++ more)) = some r
      rw [hs]
      exact ih hr

theorem run?_split {q r : Queue} {steps more : List Step} (h : q.run? (steps ++ more) = some r) :
    ∃ m, q.run? steps = some m ∧ m.run? more = some r := by
  induction steps generalizing q with
  | nil => exact ⟨q, rfl, h⟩
  | cons s rest ih =>
      obtain ⟨m, hs, hr⟩ := run?_cons h
      obtain ⟨m', hm, hmore⟩ := ih hr
      exact ⟨m', Option.bind_eq_some_iff.mpr ⟨m, hs, hm⟩, hmore⟩

section

variable {α β : Type} {note : α → Queue → Step → α}

theorem tally_append {q q' : Queue} {steps more : List Step} (h : q.run? steps = some q')
    (a : α) : tally note a q (steps ++ more) = tally note (tally note a q steps) q' more := by
  induction steps generalizing q a with
  | nil =>
      obtain rfl := Option.some.inj h
      rfl
  | cons s rest ih =>
      obtain ⟨m, hs, hr⟩ := run?_cons h
      simp only [List.cons_append, tally, hs]
      exact ih hr _

/-- A part of what is kept that depends on nothing but itself can be kept alone. -/
theorem tally_map {note' : β → Queue → Step → β} {f : α → β}
    (hf : ∀ a q s, f (note a q s) = note' (f a) q s) (a : α) (q : Queue) (steps : List Step) :
    f (tally note a q steps) = tally note' (f a) q steps := by
  induction steps generalizing q a with
  | nil => rfl
  | cons s rest ih =>
      simp only [tally]
      split
      · rw [ih, hf]
      · rfl

/-- What every step preserves of a queue and of what is kept beside it, a run preserves. -/
theorem tally_induction {P : Queue → α → Prop}
    (hstep : ∀ {q q' : Queue} {a : α} {s : Step}, P q a → q.step? s = some q' →
      P q' (note a q s)) :
    ∀ {steps : List Step} {q q' : Queue} {a : α}, P q a → q.run? steps = some q' →
      P q' (tally note a q steps)
  | [], _, _, _, hp, hr => by
      obtain rfl := Option.some.inj hr
      exact hp
  | s :: rest, q, q', a, hp, hr => by
      obtain ⟨m, hs, hm⟩ := run?_cons hr
      simp only [tally, hs]
      exact tally_induction hstep (hstep hp hs) hm

end

theorem Ledger.noteAll_eq_tally (l : Ledger) (q : Queue) (steps : List Step) :
    l.noteAll q steps = tally note l q steps := by
  induction steps generalizing l q with
  | nil => rfl
  | cons s rest ih =>
      simp only [noteAll, tally, ih]

theorem Ledger.noteAll_append {q q' : Queue} {steps more : List Step}
    (h : q.run? steps = some q') (l : Ledger) :
    l.noteAll q (steps ++ more) = (l.noteAll q steps).noteAll q' more := by
  simp only [noteAll_eq_tally]
  exact tally_append h l

theorem ledger_append {q q' : Queue} {steps more : List Step} (h : q.run? steps = some q') :
    q.ledger (steps ++ more) = (q.ledger steps).noteAll q' more :=
  Ledger.noteAll_append h Ledger.empty

/-- What every step preserves, a run preserves. -/
theorem run_induction {P : Queue → Ledger → Prop}
    (hstep : ∀ {q q' : Queue} {l : Ledger} {s : Step}, P q l → Transition q q' s →
      P q' (l.note q s)) :
    ∀ {steps : List Step} {q q' : Queue} {l : Ledger}, P q l → q.run? steps = some q' →
      P q' (l.noteAll q steps) := by
  intro steps q q' l hp h
  rw [Ledger.noteAll_eq_tally]
  exact tally_induction (fun hp hs => hstep hp (transition_of_step? hs)) hp h

theorem Ledger.started_prefix_note (l : Ledger) (q : Queue) (s : Step) :
    l.started <+: (l.note q s).started := by
  cases s with
  | start => exact List.prefix_append _ _
  | send i =>
      simp only [note]
      split <;> exact List.prefix_refl _
  | _ => exact List.prefix_refl _

theorem Ledger.started_note_of_ne {s : Step} (l : Ledger) (q : Queue) (h : s ≠ .start) :
    (l.note q s).started = l.started := by
  cases s with
  | start => exact absurd rfl h
  | send i =>
      simp only [note]
      split <;> rfl
  | _ => rfl

theorem Ledger.entered_note_of_ne {s : Step} (l : Ledger) (q : Queue) (h : ∀ i, s ≠ .send i) :
    (l.note q s).entered = l.entered := by
  cases s with
  | send i => exact absurd rfl (h i)
  | _ => rfl

/-- Tasks come into the buffer only when they are sent. -/
theorem Ledger.entered_noteAll {steps : List Step} (h : ∀ i, .send i ∉ steps) (l : Ledger)
    (q : Queue) : (l.noteAll q steps).entered = l.entered := by
  induction steps generalizing l q with
  | nil => rfl
  | cons s rest ih =>
      simp only [noteAll]
      cases q.step? s with
      | none => rfl
      | some q' =>
          refine (ih (fun i hi => h i (List.mem_cons_of_mem s hi)) _ q').trans ?_
          exact l.entered_note_of_ne q fun i hi => h i (hi ▸ List.mem_cons_self)

theorem Ledger.lost_prefix_note (l : Ledger) (q : Queue) (s : Step) :
    l.lost <+: (l.note q s).lost := by
  cases s with
  | panic => exact List.prefix_append _ _
  | send i =>
      simp only [note]
      split <;> exact List.prefix_refl _
  | _ => exact List.prefix_refl _

/-- Started tasks stay started, in their order. -/
theorem Ledger.started_prefix_noteAll {q q' : Queue} {steps : List Step} (l : Ledger)
    (h : q.run? steps = some q') : l.started <+: (l.noteAll q steps).started :=
  run_induction (P := fun _ l' => l.started <+: l'.started)
    (fun {q _ l' s} hp _ => hp.trans (l'.started_prefix_note q s)) (List.prefix_refl _) h

/-- Lost tasks stay lost. -/
theorem Ledger.lost_prefix_noteAll {q q' : Queue} {steps : List Step} (l : Ledger)
    (h : q.run? steps = some q') : l.lost <+: (l.noteAll q steps).lost :=
  run_induction (P := fun _ l' => l.lost <+: l'.lost)
    (fun {q _ l' s} hp _ => hp.trans (l'.lost_prefix_note q s)) (List.prefix_refl _) h

/-! ## Answers stay -/

theorem answer?_eq_some_iff {q : Queue} {i : Nat} {a : Answer} :
    q.answer? i = some a ↔ q.stage? i = some (.returned a) := by
  unfold answer?
  split
  · rename_i b hb
    rw [hb]
    simp
  · rename_i hb
    exact ⟨nofun, fun h => absurd h (hb a)⟩

theorem answer?_run? {q q' : Queue} {more : List Step} {i : Nat} {a : Answer}
    (ha : q.answer? i = some a) (h : q.run? more = some q') : q'.answer? i = some a := by
  rw [answer?_eq_some_iff] at ha ⊢
  exact run_induction (P := fun r _ => r.stage? i = some (.returned a))
    (fun hp ht => stage?_step hp rfl ht) (l := Ledger.empty) ha h

end HostInventory.Queue
