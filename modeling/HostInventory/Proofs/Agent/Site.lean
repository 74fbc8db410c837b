import HostInventory.Agent.Pass
import HostInventory.Proofs.FileTree.Effect

/-!
# Where passes are made

A pass is made for an arbitrary monad. Here it is made at a site: a file tree, the documents handed
to the writer so far, and surroundings of which nothing is known. They hear what is reported and
tell the time. What providers answer, and in which step a write fails, may depend on everything that
is there.

Others may do to the tree what they like, as long as they spare the state file (`Spares`): they hand
nothing to the writer, and neither its entry nor the way to it changes. Collecting spares it if
everyone who is asked does (`spares_survey`). What the passes make of the state file is then
`Holds`.
-/

namespace HostInventory

/-- Where passes are made. -/
structure Site (σ : Type) where
  tree : FileTree
  /-- The documents handed to the writer, with what came of each. -/
  written : List (Octets × Except FileError Unit)
  around : σ

/-- What listens to reports and tells the time. -/
class Surroundings (σ : Type) where
  hear : Event → σ → σ
  tell : σ → Timestamp × σ

abbrev AtSite (σ : Type) :=
  StateM (Site σ)

section

variable {σ α β : Type}

/-- What a computation gives, and the site after it. -/
def AtSite.run (x : AtSite σ α) (s : Site σ) : α × Site σ :=
  Id.run (StateT.run x s)

@[simp] theorem AtSite.run_pure (a : α) (s : Site σ) : AtSite.run (pure a) s = (a, s) :=
  rfl

@[simp] theorem AtSite.run_bind (x : AtSite σ α) (f : α → AtSite σ β) (s : Site σ) :
    AtSite.run (x >>= f) s = (f (x.run s).1).run (x.run s).2 :=
  rfl

instance [Surroundings σ] : MonadLog (AtSite σ) where
  report e := modify fun s => { s with around := Surroundings.hear e s.around }

instance [Surroundings σ] : MonadClock (AtSite σ) where
  now := modifyGet fun s =>
    ((Surroundings.tell s.around).1, { s with around := (Surroundings.tell s.around).2 })

namespace Site

/-- A writer for the tree of a site, with what the system decides in each step of a replacement. -/
def files (chance : Replacement → Site σ → Replacement.Stage → Replacement.Chance) :
    FileWriter (AtSite σ) where
  replace path content mode := do
    let s ← get
    let r : Replacement := ⟨path, content, mode⟩
    let done := r.runBy (chance r s) s.tree (.naming 0)
    set { s with tree := done.1, written := s.written ++ [(content, done.2)] }
    return done.2

theorem run_replace (chance : Replacement → Site σ → Replacement.Stage → Replacement.Chance)
    (path : String) (content : Octets) (mode : Nat) (s : Site σ) :
    AtSite.run ((files chance).replace path content mode) s =
      let r : Replacement := ⟨path, content, mode⟩
      let done := r.runBy (chance r s) s.tree (.naming 0)
      (done.2, { s with tree := done.1, written := s.written ++ [(content, done.2)] }) :=
  rfl

/-- When nothing fails, what the writer does is a replacement in the tree. -/
theorem run_replace_smooth (draws : Draws) (path : String) (content : Octets) (mode : Nat)
    (s : Site σ) :
    AtSite.run ((files fun r _ => r.smoothChance draws).replace path content mode) s =
      let done := s.tree.replace path content mode draws
      (done.2, { s with tree := done.1, written := s.written ++ [(content, done.2)] }) := by
  rw [run_replace]
  simp only [FileTree.replace, Replacement.run_eq_runBy]

/-- The document of the last write that succeeded. -/
def lastWritten? (s : Site σ) : Option Octets :=
  ((s.written.filter (·.2.isOk)).getLast?).map Prod.fst

theorem lastWritten?_eq_none_iff {s : Site σ} :
    s.lastWritten? = none ↔ ∀ w ∈ s.written, w.2.isOk = false := by
  simp [lastWritten?]

theorem lastWritten?_of_written {s s' : Site σ} {document : Octets}
    {result : Except FileError Unit} (h : s'.written = s.written ++ [(document, result)]) :
    s'.lastWritten? = if result.isOk then some document else s.lastWritten? := by
  cases hok : result.isOk <;> simp [lastWritten?, h, List.filter_append, hok]

/-! ## What the writes have made of the state file -/

/-- Nothing was written between two sites, and the state file is the same; its place is the one to
which the path led in the tree `t₀`. -/
structure SameFile (t₀ : FileTree) (path : String) (s s' : Site σ) : Prop where
  written : s'.written = s.written
  way : s'.tree.named? path = s.tree.named? path
  entry : ∀ {place : Place}, t₀.named? path = some place →
    s'.tree.get? place = s.tree.get? place

/-- The state file is what writing to a path has made of the one in the tree `t₀`. -/
structure Holds (t₀ : FileTree) (path : String) (s : Site σ) : Prop where
  entry : ∀ {place : Place}, t₀.named? path = some place →
    s.tree.get? place = (s.lastWritten?.map (Entry.file stateFileMode)).or (t₀.get? place)
  way : ∀ {place : Place}, t₀.named? path = some place → s.tree.named? path = some place ∨
    (s.tree.named? path = none ∧ ∃ target, t₀.get? place = some (.link target))
  nowhere : t₀.named? path = none → s.tree.named? path = none ∧ s.lastWritten? = none

theorem holds_start (t₀ : FileTree) (path : String) (around : σ) :
    (⟨t₀, [], around⟩ : Site σ).Holds t₀ path :=
  ⟨fun _ => rfl, .inl, fun h => ⟨h, rfl⟩⟩

namespace Holds

variable {t₀ : FileTree} {path : String} {s s' : Site σ}

theorem same (h : s.Holds t₀ path) (hs : s.SameFile t₀ path s') : s'.Holds t₀ path := by
  have hlast : s'.lastWritten? = s.lastWritten? := by
    rw [lastWritten?, hs.written, ← lastWritten?]
  refine ⟨fun hp => ?_, fun hp => ?_, fun hp => ?_⟩
  · rw [hs.entry hp, hlast]
    exact h.entry hp
  · rw [hs.way]
    exact h.way hp
  · rw [hs.way, hlast]
    exact h.nowhere hp

/-- A document is a file, so a link at the place of the state file was there at first. -/
theorem link_of_link (h : s.Holds t₀ path) {place : Place} (hp : t₀.named? path = some place)
    {target : String} (hl : s.tree.get? place = some (.link target)) :
    t₀.get? place = some (.link target) := by
  have hentry := h.entry hp
  rw [hl] at hentry
  cases hlast : s.lastWritten? with
  | none =>
      rw [hlast] at hentry
      exact hentry.symm
  | some document =>
      rw [hlast] at hentry
      cases hentry

theorem written (h : s.Holds t₀ path) {document : Octets}
    {chance : Replacement.Stage → Replacement.Chance} {r : Replacement}
    (hr : r = ⟨path, document, stateFileMode⟩)
    (htree : s'.tree = (r.runBy chance s.tree (.naming 0)).1)
    (hwritten : s'.written =
      s.written ++ [(document, (r.runBy chance s.tree (.naming 0)).2)]) : s'.Holds t₀ path := by
  subst hr
  have hmode : stateFileMode &&& 0o7777 = stateFileMode := by decide
  have hlast := lastWritten?_of_written hwritten
  have heffect := Replacement.effect_runBy ⟨path, document, stateFileMode⟩ chance s.tree 0
  rw [← htree] at heffect
  refine ⟨fun {place} hp => ?_, fun {place} hp => ?_, fun hp => ?_⟩
  · rcases h.way hp with hway | ⟨hnone, -⟩
    · rw [heffect.get?_target hway, hlast, hmode, h.entry hp]
      split <;> rfl
    · obtain ⟨hfails, -⟩ := heffect.fails_of_named?_eq_none hnone
      rw [heffect.get?_of_ne (by rw [hnone]; exact nofun), h.entry hp, hlast, hfails]
      rfl
  · rcases h.way hp with hway | ⟨hnone, hlink⟩
    · rcases heffect.named?_target hway with hnow | ⟨hnow, target, hl⟩
      · exact .inl hnow
      · exact .inr ⟨hnow, target, h.link_of_link hp hl⟩
    · exact .inr ⟨(heffect.fails_of_named?_eq_none hnone).2, hlink⟩
  · obtain ⟨hnone, hnothing⟩ := h.nowhere hp
    obtain ⟨hfails, hnow⟩ := heffect.fails_of_named?_eq_none hnone
    rw [hlast, hfails]
    exact ⟨hnow, hnothing⟩

theorem replaced (h : s.Holds t₀ path)
    (chance : Replacement → Site σ → Replacement.Stage → Replacement.Chance)
    (document : Octets) :
    (AtSite.run ((files chance).replace path document stateFileMode) s).2.Holds t₀ path := by
  rw [run_replace]
  exact h.written rfl rfl rfl

end Holds

end Site

/-! ## What spares the state file -/

/-- A computation that writes nothing and leaves the state file as it is. -/
def Spares (t₀ : FileTree) (path : String) (x : AtSite σ α) : Prop :=
  ∀ s : Site σ, s.SameFile t₀ path (x.run s).2

variable {t₀ : FileTree} {path : String}

theorem spares_pure (a : α) : Spares t₀ path (pure a : AtSite σ α) := by
  intro s
  exact ⟨rfl, rfl, fun _ => rfl⟩

theorem Spares.bind {x : AtSite σ α} {f : α → AtSite σ β} (hx : Spares t₀ path x)
    (hf : ∀ a, Spares t₀ path (f a)) : Spares t₀ path (x >>= f) := by
  intro s
  have hfirst := hx s
  have hthen := hf (x.run s).1 (x.run s).2
  rw [AtSite.run_bind]
  exact ⟨hthen.written.trans hfirst.written, hthen.way.trans hfirst.way,
    fun hp => (hthen.entry hp).trans (hfirst.entry hp)⟩

variable [Surroundings σ]

theorem spares_report (e : Event) : Spares t₀ path (report e : AtSite σ Unit) := by
  intro s
  exact ⟨rfl, rfl, fun _ => rfl⟩

theorem spares_reportAll (es : List Event) : Spares t₀ path (reportAll es : AtSite σ Unit) := by
  induction es with
  | nil => exact spares_pure ()
  | cons e es ih => exact (spares_report e).bind fun _ => ih

theorem spares_now : Spares t₀ path (MonadClock.now : AtSite σ Timestamp) := by
  intro s
  exact ⟨rfl, rfl, fun _ => rfl⟩

end

/-! ## Collecting -/

namespace Collector

variable {σ : Type} {t₀ : FileTree} {path : String}

/-- Everyone who is asked spares the state file. -/
structure AsksSparing (t₀ : FileTree) (path : String) (c : Collector (AtSite σ)) : Prop where
  provider : ∀ p ∈ c.installed ++ c.updates,
    Spares t₀ path p.isAvailable ∧ Spares t₀ path p.packages
  extractor : ∀ e, c.treatment = .structured e ∨ c.treatment = .verify e →
    Spares t₀ path e.extract

variable [Surroundings σ]

theorem spares_noteFailure (c : Collection) (source message : String) :
    Spares t₀ path (noteFailure c source message : AtSite σ Collection) :=
  (spares_report _).bind fun _ => spares_pure _

theorem spares_ask (c : Collection) {p : Provider (AtSite σ)}
    (h : Spares t₀ path p.isAvailable ∧ Spares t₀ path p.packages) :
    Spares t₀ path (ask c p) := by
  refine h.1.bind fun available => ?_
  split
  · refine h.2.bind fun answer => ?_
    split
    · exact spares_pure _
    · exact spares_noteFailure _ _ _
  · exact (spares_report _).bind fun _ => spares_pure _

theorem spares_askAll {ps : List (Provider (AtSite σ))}
    (h : ∀ p ∈ ps, Spares t₀ path p.isAvailable ∧ Spares t₀ path p.packages) (c : Collection) :
    Spares t₀ path (askAll c ps) := by
  induction ps generalizing c with
  | nil => exact spares_pure c
  | cons p rest ih =>
      refine (spares_ask c (h p List.mem_cons_self)).bind fun c' => ?_
      exact ih (fun p' hp' => h p' (List.mem_cons_of_mem p hp')) c'

theorem spares_extract (c : Collection) {e : Extractor (AtSite σ)}
    (h : Spares t₀ path e.extract) : Spares t₀ path (extract c e) := by
  refine h.bind fun outcome => ?_
  split
  · exact (spares_noteFailure _ _ _).bind fun _ => spares_pure _
  · split
    · exact (spares_noteFailure _ _ _).bind fun _ => spares_pure _
    · exact (spares_pure _).bind fun _ => spares_pure _

theorem spares_treat (c : Collection) {treatment : Treatment (AtSite σ)}
    (h : ∀ e, treatment = .structured e ∨ treatment = .verify e → Spares t₀ path e.extract) :
    Spares t₀ path (treat c treatment) := by
  cases treatment with
  | legacy => exact spares_pure c
  | structured e =>
      refine (spares_extract c (h e (.inl rfl))).bind fun outcome => ?_
      split <;> exact spares_pure _
  | verify e =>
      refine (spares_extract c (h e (.inr rfl))).bind fun outcome => ?_
      split
      · exact (spares_reportAll _).bind fun _ => spares_pure _
      · exact spares_pure _

theorem spares_survey {c : Collector (AtSite σ)} (h : c.AsksSparing t₀ path) :
    Spares t₀ path c.survey := by
  have hinstalled : Spares t₀ path c.installedPackages := by
    refine (spares_report _).bind fun _ => spares_now.bind fun time => ?_
    refine (spares_askAll (fun p hp => ?_) _).bind fun gathered => ?_
    · exact h.provider p (List.mem_append_left _ (List.mem_filter.mp hp).1)
    · exact (spares_treat gathered h.extractor).bind fun _ =>
        (spares_report _).bind fun _ => spares_pure _
  have hupdates : Spares t₀ path c.packageUpdates := by
    refine (spares_report _).bind fun _ => spares_now.bind fun time => ?_
    refine (spares_askAll (fun p hp => ?_) _).bind fun _ => (spares_report _).bind fun _ =>
      spares_pure _
    exact h.provider p (List.mem_append_right _ hp)
  exact hinstalled.bind fun _ => hupdates.bind fun _ => spares_now.bind fun _ => spares_pure _

end Collector

end HostInventory
