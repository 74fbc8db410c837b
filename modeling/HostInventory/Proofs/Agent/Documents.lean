import HostInventory.Agent.Basic
import HostInventory.Proofs.Agent.Site
import HostInventory.Proofs.Queue.Ledger
import Mathlib.Logic.Function.Iterate

/-!
# What stands in the state file

The queue decides when a pass is made, and between two passes the hook may empty the buffer. Neither
matters to what is written: a pass puts its own document into whatever buffer it finds
(`content_intoBuffer`), so that what an agent does along any run of its queue is one pass after the
other, as many as tasks are started (`run_perform`). Each of them replaces the state file or leaves
it as it was.
-/

namespace HostInventory

/-- Nothing of what was in a buffer is left when a document is put into it. -/
@[simp] theorem InventoryState.content_intoBuffer (s : InventoryState) (b : Buffer) :
    (s.intoBuffer b).content = s.document := by
  simp only [intoBuffer, Buffer.append, Buffer.clear, List.nil_append]

namespace Agent

/-- What is reported at the end of a pass. -/
def passEvent {m : Type → Type} (agent : Agent m) (state : InventoryState) :
    Except FileError Unit → Event
  | .error cause => ⟨.error, "inventory collection failed",
      [("error", .text (PassError.mk agent.stateFile cause).message)]⟩
  | .ok () => ⟨.info, "inventory state written",
      [("installed", .count state.installed.packages.size),
        ("updates", .count state.updates.packages.size)]⟩

section

variable {m : Type → Type} [Monad m] [MonadLog m] [MonadClock m]

/-- Steps of the queue in a given order, with all that goes with them, up to one that cannot be
made. -/
def perform (agent : Agent m) (memory : Memory) : List Queue.Step → m Memory
  | [] => return memory
  | s :: rest =>
    match memory.queue.step? s with
    | none => return memory
    | some queue => do
      let memory ← agent.accompany { memory with queue } s
      perform agent memory rest

/-- One pass, without a buffer. -/
def collectAndWrite (agent : Agent m) : m InventoryState := do
  let state ← agent.collector.survey
  let result ← agent.files.replace agent.stateFile state.document stateFileMode
  report (agent.passEvent state result)
  return state

def bufferAfter (agent : Agent m) (b : Buffer) : Queue.Step → m Buffer
  | .start => return (← agent.collectAndWrite).intoBuffer b
  | .hook => return b.release
  | _ => return b

def settleSteps : Nat → Queue → List Queue.Step
  | 0, _ => []
  | n + 1, q =>
    match q.next? .completed with
    | none => []
    | some s =>
      match q.step? s with
      | none => []
      | some q' => s :: settleSteps n q'

/-- The steps with which a request is answered. -/
def requestSteps (q : Queue) (r : Queue.Request) : List Queue.Step :=
  let q' := (q.step? (.call r)).getD q
  .call r :: settleSteps q'.enoughSteps q'

theorem run?_settleSteps (n : Nat) (q : Queue) : ∃ q', q.run? (settleSteps n q) = some q' := by
  induction n generalizing q with
  | zero => exact ⟨q, rfl⟩
  | succ n ih =>
      simp only [settleSteps]
      split
      · exact ⟨q, rfl⟩
      · split
        · exact ⟨q, rfl⟩
        · rename_i q₁ hs
          obtain ⟨q', hq'⟩ := ih q₁
          exact ⟨q', Option.bind_eq_some_iff.mpr ⟨q₁, hs, hq'⟩⟩

theorem run?_requestSteps (q : Queue) (r : Queue.Request) :
    ∃ q', q.run? (requestSteps q r) = some q' := by
  obtain ⟨called, hcalled⟩ : ∃ called, q.step? (.call r) = some called := ⟨_, rfl⟩
  obtain ⟨q', hq'⟩ := run?_settleSteps called.enoughSteps called
  refine ⟨q', ?_⟩
  simp only [requestSteps, hcalled, Option.getD_some]
  exact Option.bind_eq_some_iff.mpr ⟨called, hcalled, hq'⟩

variable [LawfulMonad m]

/-- Besides its queue an agent remembers the buffer only. -/
theorem accompany_eq (agent : Agent m) (memory : Memory) (s : Queue.Step) :
    agent.accompany memory s = do
      let b ← agent.bufferAfter memory.buffer s
      return { memory with buffer := b } := by
  cases s with
  | start =>
      simp only [accompany, bufferAfter, Collector.pass, collectAndWrite, bind_assoc, pure_bind,
        InventoryState.content_intoBuffer]
      refine bind_congr fun state => bind_congr fun result => ?_
      cases result with
      | ok _
      | error _ => simp only [passEvent, bind_assoc, pure_bind]
  | call _
  | drop _
  | lock _
  | send _
  | answer _
  | receive
  | complete
  | hook
  | panic
  | exit => simp only [accompany, bufferAfter, pure_bind]

/-- What an agent does until nothing can make progress is a performance of the scheduler's steps. -/
theorem settleWithin_eq_perform (agent : Agent m) (n : Nat) (memory : Memory) :
    agent.settleWithin n memory = agent.perform memory (settleSteps n memory.queue) := by
  induction n generalizing memory with
  | zero => rfl
  | succ n ih =>
      cases hn : memory.queue.next? .completed with
      | none => simp only [settleWithin, settleSteps, hn, perform]
      | some s =>
          cases hs : memory.queue.step? s with
          | none => simp only [settleWithin, settleSteps, hn, hs, perform]
          | some queue =>
              simp only [settleWithin, settleSteps, hn, hs, perform, accompany_eq, bind_assoc,
                pure_bind, ih]

/-- So is what it does to answer a request: to make a pass, or to close. -/
theorem request_eq_perform (agent : Agent m) (memory : Memory) (r : Queue.Request) :
    agent.request memory r = do
      let memory' ← agent.perform memory (requestSteps memory.queue r)
      return (memory', memory'.queue.answer? memory.queue.calls.length) := by
  simp only [request, requestSteps, settleWithin_eq_perform, perform, Queue.step?,
    Option.getD_some, accompany_eq, bufferAfter, pure_bind]

end

/-! ## Passes at a site -/

section

variable {σ : Type} [Surroundings σ]

def afterPass (agent : Agent (AtSite σ)) (s : Site σ) : Site σ :=
  (agent.collectAndWrite.run s).2

/-- The site after steps of the queue of an agent that has done nothing before. -/
def siteAfter (agent : Agent (AtSite σ)) (s : Site σ) (steps : List Queue.Step) : Site σ :=
  ((agent.perform agent.start steps).run s).2

theorem run_accompany (agent : Agent (AtSite σ)) (memory : Memory) (step : Queue.Step)
    (s : Site σ) : ∃ b, AtSite.run (agent.accompany memory step) s =
      ({ memory with buffer := b }, if step = .start then agent.afterPass s else s) := by
  rw [accompany_eq]
  cases step with
  | start => exact ⟨_, rfl⟩
  | _ => exact ⟨_, rfl⟩

/-- Along any run of the queue one pass is made after the other, as many as tasks are started. -/
theorem run_perform (agent : Agent (AtSite σ)) {q q' : Queue} {steps : List Queue.Step}
    (h : q.run? steps = some q') (b : Buffer) (s : Site σ) :
    ∃ b', AtSite.run (agent.perform ⟨q, b⟩ steps) s =
      (⟨q', b'⟩, agent.afterPass^[steps.count .start] s) := by
  induction steps generalizing q b s with
  | nil =>
      obtain rfl := Option.some.inj h
      exact ⟨b, rfl⟩
  | cons step rest ih =>
      obtain ⟨m, hs, hm⟩ := Queue.run?_cons h
      obtain ⟨b₁, hb₁⟩ := agent.run_accompany ⟨m, b⟩ step s
      obtain ⟨b', hb'⟩ := ih hm b₁ (if step = .start then agent.afterPass s else s)
      refine ⟨b', ?_⟩
      simp only [perform, hs, AtSite.run_bind, hb₁, hb']
      by_cases hstart : step = .start
      · subst hstart
        rw [if_pos rfl, List.count_cons_self, Function.iterate_succ_apply]
      · rw [if_neg hstart, List.count_cons_of_ne hstart]

theorem siteAfter_eq (agent : Agent (AtSite σ)) {q : Queue} {steps : List Queue.Step}
    (h : (Queue.fresh agent.reclaims).run? steps = some q) (s : Site σ) :
    agent.siteAfter s steps = agent.afterPass^[steps.count .start] s := by
  obtain ⟨b, hb⟩ := agent.run_perform h .none s
  exact congrArg Prod.snd hb

end

/-! ## What a pass makes of the state file -/

section

variable {σ : Type} [Surroundings σ] (agent : Agent (AtSite σ)) {t₀ : FileTree}
  {chance : Replacement → Site σ → Replacement.Stage → Replacement.Chance}

/-- A pass hands its own document to the writer, and the state file is what the writer makes of
it. -/
theorem written_afterPass (hasks : agent.collector.AsksSparing t₀ agent.stateFile)
    (hfiles : agent.files = Site.files chance) (s : Site σ) :
    let state := (AtSite.run agent.collector.survey s).1
    (∃ result, (agent.afterPass s).written = s.written ++ [(state.document, result)]) ∧
      (s.Holds t₀ agent.stateFile → (agent.afterPass s).Holds t₀ agent.stateFile) := by
  intro state
  let collected := (AtSite.run agent.collector.survey s).2
  let wrote := AtSite.run
    ((Site.files chance).replace agent.stateFile state.document stateFileMode) collected
  let said := AtSite.run (report (agent.passEvent state wrote.1)) wrote.2
  have hpass : agent.afterPass s = said.2 := by
    rw [afterPass, collectAndWrite, hfiles]
    rfl
  have hsurvey : s.SameFile t₀ agent.stateFile collected := Collector.spares_survey hasks s
  have hreport : wrote.2.SameFile t₀ agent.stateFile said.2 := spares_report _ wrote.2
  refine ⟨⟨wrote.1, ?_⟩, fun h => ?_⟩
  · rw [hpass, hreport.written, ← hsurvey.written]
    rfl
  · rw [hpass]
    exact ((h.same hsurvey).replaced chance state.document).same hreport

theorem holds_iterate (hasks : agent.collector.AsksSparing t₀ agent.stateFile)
    (hfiles : agent.files = Site.files chance) {s : Site σ} (h : s.Holds t₀ agent.stateFile)
    (n : Nat) : (agent.afterPass^[n] s).Holds t₀ agent.stateFile := by
  induction n with
  | zero => exact h
  | succ n ih =>
      rw [Function.iterate_succ_apply']
      exact (written_afterPass agent hasks hfiles _).2 ih

theorem length_written_iterate (hasks : agent.collector.AsksSparing t₀ agent.stateFile)
    (hfiles : agent.files = Site.files chance) (s : Site σ) (n : Nat) :
    (agent.afterPass^[n] s).written.length = s.written.length + n := by
  induction n with
  | zero => rfl
  | succ n ih =>
      obtain ⟨⟨result, hwritten⟩, -⟩ := written_afterPass agent hasks hfiles (agent.afterPass^[n] s)
      rw [Function.iterate_succ_apply', hwritten, List.length_append, ih]
      rfl

/-! ## One pass's own document -/

/-- Along any run of the queue of an agent, whatever providers answer, whichever writes fail, and
whether or not the buffer is given back: each pass hands the document of what it collected itself to
the writer, and then the state file is that document if the write succeeded, and what it was before
the pass if it failed. So at any time the state file is the last document whose write succeeded, and
the path leads to it still, unless it led there through the link which the first document replaced.
Two runs with as many passes, with and without giving the buffer back, write the same documents with
the same success. -/
theorem state_file_is_last_document {collector : Collector (AtSite σ)} {stateFile : String}
    (hasks : collector.AsksSparing t₀ stateFile)
    (chance : Replacement → Site σ → Replacement.Stage → Replacement.Chance)
    (interval : Duration) {reclaims : Bool} {steps : List Queue.Step} {q : Queue}
    (hrun : (Queue.fresh reclaims).run? steps = some q) (around : σ) :
    let agent (reclaims : Bool) : Agent (AtSite σ) :=
      ⟨collector, Site.files chance, stateFile, interval, reclaims⟩
    let siteAfter := (agent reclaims).siteAfter ⟨t₀, [], around⟩
    let now := siteAfter steps
    (∀ before after, steps = before ++ .start :: after →
      let s := siteAfter before
      let s' := siteAfter (before ++ [.start])
      let state := (AtSite.run collector.survey s).1
      ∃ result, s'.written = s.written ++ [(state.document, result)] ∧
        ∀ place, t₀.named? stateFile = some place → s'.tree.get? place =
          if result.isOk then some (.file stateFileMode state.document)
          else s.tree.get? place) ∧
      now.written.length = steps.count .start ∧
      (∀ place, t₀.named? stateFile = some place →
        now.tree.get? place =
            (now.lastWritten?.map (Entry.file stateFileMode)).or (t₀.get? place) ∧
          (now.tree.named? stateFile = some place ∨
            (now.tree.named? stateFile = none ∧
              ∃ target, t₀.get? place = some (.link target)))) ∧
      (t₀.named? stateFile = none → ∀ w ∈ now.written, w.2.isOk = false) ∧
      ∀ reclaims' steps' q', (Queue.fresh reclaims').run? steps' = some q' →
        steps'.count .start = steps.count .start →
        (agent reclaims').siteAfter ⟨t₀, [], around⟩ steps' = now := by
  intro agent siteAfter now
  have hstart := Site.holds_start t₀ stateFile around
  have hsite : ∀ {steps q}, (Queue.fresh reclaims).run? steps = some q →
      siteAfter steps = (agent reclaims).afterPass^[steps.count .start] ⟨t₀, [], around⟩ :=
    fun h => (agent reclaims).siteAfter_eq h _
  have hholds : ∀ {steps q}, (Queue.fresh reclaims).run? steps = some q →
      (siteAfter steps).Holds t₀ stateFile := fun h => by
    rw [hsite h]
    exact holds_iterate (agent reclaims) hasks rfl hstart _
  refine ⟨fun before after hsplit => ?_, ?_, fun place hp => ?_, fun hp => ?_,
    fun reclaims' steps' q' hrun' hcount => ?_⟩
  · subst hsplit
    obtain ⟨m, hbefore, hrest⟩ := Queue.run?_split hrun
    obtain ⟨m', hs, -⟩ := Queue.run?_cons hrest
    have hafter : (Queue.fresh reclaims).run? (before ++ [.start]) = some m' := by
      refine Queue.run?_append hbefore ?_
      exact Option.bind_eq_some_iff.mpr ⟨m', hs, rfl⟩
    have hpass : siteAfter (before ++ [.start]) =
        (agent reclaims).afterPass (siteAfter before) := by
      rw [hsite hafter, hsite hbefore, List.count_append, List.count_singleton_self,
        Function.iterate_succ_apply']
    obtain ⟨⟨result, hwritten⟩, -⟩ :=
      written_afterPass (agent reclaims) hasks rfl (siteAfter before)
    rw [← hpass] at hwritten
    refine ⟨result, hwritten, fun place hp => ?_⟩
    rw [(hholds hafter).entry hp, (hholds hbefore).entry hp,
      Site.lastWritten?_of_written hwritten]
    split <;> rfl
  · rw [show now = _ from hsite hrun, length_written_iterate (agent reclaims) hasks rfl]
    exact Nat.zero_add _
  · exact ⟨(hholds hrun).entry hp, (hholds hrun).way hp⟩
  · exact Site.lastWritten?_eq_none_iff.mp ((hholds hrun).nowhere hp).2
  · rw [show now = _ from hsite hrun, ← hcount]
    exact (agent reclaims').siteAfter_eq hrun' _

/-- Surroundings that hear nothing, and in which every look at the clock takes a nanosecond. -/
instance : Surroundings Nat where
  hear _ n := n
  tell n := (⟨n⟩, n + 1)

/-- A provider that is there for the first pass only, and a second write that finds no name for its
temporary file: two passes, with and without giving the buffer back. -/
theorem state_file_is_last_document_failing : ∃ (collector : Collector (AtSite Nat))
    (chance : Replacement → Site Nat → Replacement.Stage → Replacement.Chance) (t₀ : FileTree)
    (steps : List Queue.Step) (q : Queue),
    (Queue.fresh true).run? steps = some q ∧ t₀.named? "state.json" = some ["state.json"] ∧
    let agent (reclaims : Bool) : Agent (AtSite Nat) :=
      ⟨collector, Site.files chance, "state.json", ⟨60, 0⟩, reclaims⟩
    let now := (agent true).siteAfter ⟨t₀, [], 0⟩ steps
    now.written.length = 2 ∧
      now.tree.get? ["state.json"] = now.lastWritten?.map (Entry.file stateFileMode) ∧
      ∀ steps' q', (Queue.fresh false).run? steps' = some q' → steps'.count .start = 2 →
        (agent false).siteAfter ⟨t₀, [], 0⟩ steps' = now := by
  let provider : Provider (AtSite Nat) :=
    ⟨.deb, do return (← get).written.isEmpty, return .ok []⟩
  let chance (_ : Replacement) (s : Site Nat) (_ : Replacement.Stage) : Replacement.Chance :=
    ⟨0, 0, if s.written.isEmpty then none else some .accessDenied⟩
  let t₀ : FileTree := ⟨[([], .directory 0o755)], [], 0o022⟩
  have hasks : Collector.AsksSparing t₀ "state.json" ⟨[provider], [], .legacy⟩ := by
    refine ⟨fun p hp => ?_, fun e he => ?_⟩
    · obtain rfl := List.mem_singleton.mp hp
      exact ⟨fun s => ⟨rfl, rfl, fun _ => rfl⟩, fun s => ⟨rfl, rfl, fun _ => rfl⟩⟩
    · rcases he with he | he <;> cases he
  have hnamed : t₀.named? "state.json" = some ["state.json"] := by
    have hcut : FileTree.cutLast "state.json" = ([], .name "state.json" false) := by
      decide +kernel
    have hcheck : FileTree.checkPath "state.json" = .ok () := by decide +kernel
    simp only [FileTree.named?, FileTree.locateParent, hcut, hcheck, FileTree.follow]
    rfl
  have hrun : (Queue.fresh true).run? [.call (.enqueue collectionTask), .lock 0, .send 0, .receive,
      .answer 0, .start, .complete, .hook, .call (.enqueue collectionTask), .lock 1, .send 1,
      .receive, .answer 1, .start, .complete, .hook] = some ⟨.running, none, none, .idle, true,
        [⟨.enqueue collectionTask, .returned .accepted⟩,
          ⟨.enqueue collectionTask, .returned .accepted⟩]⟩ := rfl
  obtain ⟨-, hlength, hentry, -, hsame⟩ := state_file_is_last_document hasks chance ⟨60, 0⟩ hrun 0
  refine ⟨_, chance, t₀, _, _, hrun, hnamed, hlength, ?_, fun steps' q' hrun' hcount => ?_⟩
  · rw [(hentry _ hnamed).1]
    exact Option.or_none
  · exact hsame false steps' q' hrun' hcount

end

end Agent

end HostInventory
