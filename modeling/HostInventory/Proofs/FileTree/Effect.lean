import HostInventory.Proofs.FileTree.Alone
import HostInventory.Proofs.FileTree.Creation
import HostInventory.Proofs.FileTree.Moves

/-!
# The whole effect of a replacement

A replacement that runs alone leaves the tree in which it began, or that tree with the new file at
the target, and nothing in between (`effect_runBy`). While it is at work the tree has its temporary
file besides and is otherwise the same (`AtWork`), so that taking the file away restores it; the
directory in which a file could be created lets it be taken away again.

When the system lets nothing fail that could succeed, a replacement is the creation of a temporary
file and what follows it (`runBy_naming`), and what follows succeeds where a file can go
(`AtWork.unmovable`).
-/

namespace HostInventory

namespace FileTree

/-! ## Putting and taking away -/

variable (t : FileTree) {place : Place}

theorem erase_of_get?_eq_none (h : t.get? place = none) : t.erase place = t := by
  have hkeep : t.entries.filter (·.1 != place) = t.entries := by
    refine List.filter_eq_self.mpr fun e he => ?_
    have hne := bne_iff_ne.mp (List.lookup_eq_none_iff.mp h e he)
    exact bne_iff_ne.mpr hne.symm
  rw [erase, hkeep]

theorem erase_put (place : Place) (e : Entry) : (t.put place e).erase place = t.erase place := by
  simp [erase, put]

theorem put_put (place : Place) (e e' : Entry) :
    (t.put place e).put place e' = t.put place e' := by
  rw [put, erase_put]
  rfl

theorem erase_put_of_free (h : t.get? place = none) (e : Entry) :
    (t.put place e).erase place = t := by
  rw [erase_put, erase_of_get?_eq_none t h]

end FileTree

namespace Replacement

/-! ## At work alone -/

/-- A replacement has its temporary file in the tree in which it began, and is at a stage that fits
the file. -/
inductive AtWork (t₀ : FileTree) (r : Replacement) : FileTree → Stage → Prop where
  | holding {s : Stage} {temp : TempFile} {mode : Nat} {octets : Octets} (hs : s.temp? = some temp)
      (hp : t₀.Changeable temp.path temp.place) (hfree : t₀.get? temp.place = none)
      (hne : t₀.named? r.path ≠ some temp.place) (hf : s.Fits r mode octets) :
      AtWork t₀ r (t₀.put temp.place (.file mode octets)) s

/-- What a replacement that has returned has done to the tree in which it began. -/
inductive Effect (t₀ : FileTree) (r : Replacement) : FileTree → Except FileError Unit → Prop where
  | failed (cause : FileError) : Effect t₀ r t₀ (.error cause)
  | replaced {target : Place} (hp : t₀.Changeable r.path target)
      (hd : ∀ mode, t₀.get? target ≠ some (.directory mode)) :
      Effect t₀ r (t₀.put target (.file (r.mode &&& 0o7777) r.content)) (.ok ())

variable {t₀ t : FileTree} {r : Replacement}

theorem noNewWays_put_temp {place : Place} (hfree : t₀.get? place = none) (mode : Nat)
    (octets : Octets) : t₀.NoNewWays (t₀.put place (.file mode octets)) :=
  (FileTree.NoNewWays.refl t₀).put_file (by simp [hfree]) mode octets

theorem noNewWays_of_put_temp {place : Place} (hfree : t₀.get? place = none) (mode : Nat)
    (octets : Octets) : (t₀.put place (.file mode octets)).NoNewWays t₀ := by
  refine ⟨rfl, fun {p m} => (noNewWays_put_temp hfree mode octets).directory.symm,
    fun {p target} hl => ?_⟩
  rw [FileTree.get?_put_of_ne]
  · exact hl
  · rintro rfl
    rw [hfree] at hl
    cases hl

theorem atWork_of_attempt {number : Nat} {temp : TempFile}
    (h : TempFile.attempt t₀ r.directory r.pattern r.mode number = .ok (temp, t)) :
    AtWork t₀ r t (.writing temp r.content) := by
  obtain ⟨hpath, hp, hfree, rfl⟩ := TempFile.attempt_eq_ok h
  exact .holding rfl hp hfree (fun ht => temp_ne_target ht (hpath ▸ hp.named) rfl) rfl

theorem AtWork.step {s : Stage} (h : AtWork t₀ r t s) (chance : Chance) :
    AtWork t₀ r (r.step chance t s).1 (r.step chance t s).2 ∨
      ∃ result, (r.step chance t s).2 = .returned result ∧
        Effect t₀ r (r.step chance t s).1 result := by
  obtain ⟨hs, hp, hfree, hne, hf⟩ := h
  rename_i temp mode octets
  have hways := noNewWays_put_temp hfree mode octets
  have howns : ∀ temp', s.temp? = some temp' →
      Owns t₀ (t₀.put temp.place (.file mode octets)) r s temp' := fun temp' hs' => by
    obtain rfl := Option.some.inj (hs.symm.trans hs')
    exact ⟨hp.named, hfree, hne, mode, octets, FileTree.get?_put_self _ _ _, hf⟩
  have hmove := move_of_step hways howns chance
  generalize r.step chance (t₀.put temp.place (.file mode octets)) s = next at hmove ⊢
  obtain ⟨t', s'⟩ := next
  dsimp only at hmove ⊢
  cases hmove with
  | rest ht _ hf' => exact .inl (.holding (ht.trans hs) hp hfree hne (hf' mode octets hf))
  | create _ _ _ => cases hs
  | @change _ _ temp' mode' octets' hs₁ hs₂ hf' =>
      obtain rfl := Option.some.inj (hs.symm.trans hs₁)
      rw [FileTree.put_put]
      exact .inl (.holding hs₂ hp hfree hne hf')
  | @replace temp' target ht hd =>
      obtain rfl := Option.some.inj hs
      refine .inr ⟨_, rfl, ?_⟩
      rw [FileTree.erase_put_of_free t₀ hfree]
      exact .replaced ht fun mode' hm => hd mode' (hways.directory.mpr hm)
  | remove =>
      obtain rfl := Option.some.inj hs
      rw [FileTree.erase_put_of_free t₀ hfree]
      exact .inr ⟨_, rfl, .failed _⟩
  | @leave temp' cause e he =>
      obtain rfl := Option.some.inj hs
      have hthere := hp.of_noNewWays (noNewWays_of_put_temp hfree mode octets)
      have hok := FileTree.unlink_of_changeable hthere (FileTree.get?_put_self t₀ _ _) rfl
      rw [hok] at he
      cases he

theorem AtWork.result?_eq_none {s : Stage} (h : AtWork t₀ r t s) : s.result? = none := by
  obtain ⟨hs, -⟩ := h
  cases s with
  | returned _ => cases hs
  | _ => rfl

/-- What a step can come to that looks for a name. -/
theorem step_naming (r : Replacement) (chance : Chance) (t : FileTree) (tried : Nat) :
    (∃ tried', r.step chance t (.naming tried) = (t, .naming tried')) ∨
      (∃ c, r.step chance t (.naming tried) = (t, .returned (.error (.creatingTemp c)))) ∨
      AtWork t r (r.step chance t (.naming tried)).1 (r.step chance t (.naming tried)).2 := by
  simp only [Replacement.step]
  split
  · unfold tryName
    split
    · rename_i temp t' ha
      exact .inr (.inr (atWork_of_attempt ha))
    · simp only [afterNaming]
      split
      · split
        · exact .inl ⟨_, rfl⟩
        · exact .inr (.inl ⟨_, rfl⟩)
      · exact .inr (.inl ⟨_, rfl⟩)
  · exact .inr (.inl ⟨_, rfl⟩)

theorem AtWork.runBy {s : Stage} (h : AtWork t₀ r t s) (chance : Stage → Chance) :
    Effect t₀ r (r.runBy chance t s).1 (r.runBy chance t s).2 := by
  induction t, s using runBy.induct r chance with
  | case1 t s result hresult =>
      rw [h.result?_eq_none] at hresult
      cases hresult
  | case2 t s hs next ih =>
      rw [runBy_of_result?_eq_none r chance t hs]
      rcases h.step (chance s) with hnext | ⟨result, hresult, heffect⟩
      · exact ih hnext
      · rw [hresult, runBy_returned]
        exact heffect

/-- Whatever fails: the tree is as it was, or the target is the new file. -/
theorem effect_runBy (r : Replacement) (chance : Stage → Chance) (t : FileTree) (tried : Nat) :
    Effect t r (r.runBy chance t (.naming tried)).1 (r.runBy chance t (.naming tried)).2 := by
  generalize hs : Stage.naming tried = s
  induction t, s using runBy.induct r chance generalizing tried with
  | case1 t s result hresult =>
      subst hs
      cases hresult
  | case2 t s hnone next ih =>
      subst hs
      rw [runBy_of_result?_eq_none r chance t hnone]
      rcases step_naming r (chance (.naming tried)) t tried with ⟨tried', heq⟩ | ⟨c, heq⟩ | hwork
      · have hnext : next = (t, .naming tried') := heq
        rw [hnext] at ih
        rw [heq]
        exact ih tried' rfl
      · rw [heq, runBy_returned]
        exact .failed _
      · exact hwork.runBy chance

namespace Effect

variable {result : Except FileError Unit} (h : Effect t₀ r t result)

include h

theorem noNewWays : t₀.NoNewWays t := by
  cases h with
  | failed _ => exact .refl t₀
  | replaced _ hd => exact (FileTree.NoNewWays.refl t₀).put_file hd _ _

theorem get?_target {place : Place} (hp : t₀.named? r.path = some place) :
    t.get? place =
      if result.isOk then some (.file (r.mode &&& 0o7777) r.content) else t₀.get? place := by
  cases h with
  | failed _ => rfl
  | replaced ht _ =>
      obtain rfl := Option.some.inj (hp.symm.trans ht.named)
      exact FileTree.get?_put_self _ _ _

theorem get?_of_ne {place : Place} (hne : t₀.named? r.path ≠ some place) :
    t.get? place = t₀.get? place := by
  cases h with
  | failed _ => rfl
  | replaced ht _ =>
      refine FileTree.get?_put_of_ne t₀ _ ?_
      rintro rfl
      exact hne ht.named

/-- The path leads to its place still, unless the link there was part of the way. -/
theorem named?_target {place : Place} (hp : t₀.named? r.path = some place) :
    t.named? r.path = some place ∨
      (t.named? r.path = none ∧ ∃ target, t₀.get? place = some (.link target)) := by
  refine FileTree.named?_of_links_kept h.noNewWays hp fun {p target} hne hl => ?_
  rw [h.get?_of_ne fun hp' => hne (Option.some.inj (hp'.symm.trans hp))]
  exact hl

/-- Where the path leads nowhere the replacement fails, and the path leads nowhere still. -/
theorem fails_of_named?_eq_none (hp : t₀.named? r.path = none) :
    result.isOk = false ∧ t.named? r.path = none := by
  cases h with
  | failed _ => exact ⟨rfl, hp⟩
  | replaced ht _ =>
      rw [ht.named] at hp
      cases hp

/-- The same replacement once more finds the file that it would bring. -/
theorem eq_of_again (hok : result = .ok ()) {t' : FileTree} {result' : Except FileError Unit}
    (h' : Effect t r t' result') : t' = t := by
  have hways := h.noNewWays
  subst hok
  cases h' with
  | failed _ => rfl
  | @replaced target' hp' _ =>
      cases h with
      | @replaced target hp _ =>
          have hnamed := FileTree.named?_of_noNewWays hways hp'.named
          obtain rfl := Option.some.inj (hp.named.symm.trans hnamed)
          exact FileTree.put_put t₀ _ _ _

end Effect

/-! ## When nothing fails that could succeed -/

/-- A path names a place where a file can go. -/
def Replaceable (t : FileTree) (path : String) : Prop :=
  ∃ place, t.Changeable path place ∧ ∀ mode, t.get? place ≠ some (.directory mode)

/-- A temporary file could not be renamed, for no file can go to its target. -/
def Unmovable (t₀ : FileTree) (r : Replacement) (cause : FileError) : Prop :=
  (∃ source e, cause = .moving source r.path e) ∧ ¬ Replaceable t₀ r.path

/-- If a stage is about a failure, it is that of renaming. -/
def Stage.FailsMoving (t₀ : FileTree) (r : Replacement) : Stage → Prop
  | removing _ cause => Unmovable t₀ r cause
  | returned (.error cause) => Unmovable t₀ r cause
  | _ => True

theorem AtWork.failsMoving_step {s : Stage} (h : AtWork t₀ r t s) (hs : s.FailsMoving t₀ r)
    {chance : Chance} (hc : chance.fault = none) : (r.step chance t s).2.FailsMoving t₀ r := by
  obtain ⟨htemp, hp, hfree, -, -⟩ := h
  rename_i temp mode octets
  have hback := noNewWays_of_put_temp hfree mode octets
  have hthere := hp.of_noNewWays hback
  have hfile := FileTree.get?_put_self t₀ temp.place (.file mode octets)
  cases s with
  | naming _ => cases htemp
  | writing _ left =>
      cases left with
      | nil => trivial
      | cons octet left =>
          simp only [Replacement.step, hc]
          trivial
  | syncing _ =>
      simp only [Replacement.step, hc]
      trivial
  | settingMode _ =>
      obtain rfl := Option.some.inj htemp
      simp only [Replacement.step, Chance.outcome, hc,
        FileTree.setMode_of_changeable hthere hfile]
      trivial
  | moving _ =>
      obtain rfl := Option.some.inj htemp
      simp only [Replacement.step, Chance.outcome, hc]
      split
      · trivial
      · rename_i e he
        refine ⟨⟨_, e, rfl⟩, ?_⟩
        rintro ⟨target, htarget, hd⟩
        rw [FileTree.rename_of_changeable hthere (htarget.of_noNewWays hback) hfile rfl
          fun m hm => hd m (hback.directory.mpr hm)] at he
        cases he
  | removing _ cause => exact hs
  | returned _ => cases htemp

theorem AtWork.unmovable {s : Stage} (h : AtWork t₀ r t s) (hs : s.FailsMoving t₀ r)
    {chance : Stage → Chance} (hc : ∀ s, (chance s).fault = none) {cause : FileError}
    (hr : (r.runBy chance t s).2 = .error cause) : Unmovable t₀ r cause := by
  induction t, s using runBy.induct r chance with
  | case1 t s result hresult =>
      rw [h.result?_eq_none] at hresult
      cases hresult
  | case2 t s hnone next ih =>
      rw [runBy_of_result?_eq_none r chance t hnone] at hr
      have hfails := h.failsMoving_step hs (hc s)
      rcases h.step (chance s) with hnext | ⟨result, hresult, -⟩
      · exact ih hnext hfails hr
      · rw [hresult, runBy_returned] at hr
        rw [hresult, show result = .error cause from hr] at hfails
        exact hfails

theorem fault_smoothChance (r : Replacement) (draws : Draws) (s : Stage) :
    (r.smoothChance draws s).fault = none := by
  cases s <;> rfl

/-- A replacement creates a temporary file as anyone would, and goes on with it. -/
theorem runBy_naming (r : Replacement) (draws : Draws) (t : FileTree) (attempts tried : Nat)
    (h : tried + (attempts + 1) = TempFile.maxAttempts) :
    r.runBy (r.smoothChance draws) t (.naming tried) =
      match TempFile.createWithin t r.directory r.pattern r.mode draws (attempts + 1) tried with
      | .ok (temp, t') => r.runBy (r.smoothChance draws) t' (.writing temp r.content)
      | .error c => (t, .error (.creatingTemp c)) := by
  induction attempts generalizing tried with
  | zero =>
      rw [runBy_of_result?_eq_none r _ t rfl, TempFile.createWithin_succ]
      show r.runBy _ (r.tryName t tried (draws tried)).1 (r.tryName t tried (draws tried)).2 = _
      unfold tryName
      cases TempFile.attempt t r.directory r.pattern r.mode (draws tried) with
      | ok created => rfl
      | error cause =>
          simp only [afterNaming]
          split
          · rw [if_neg (by omega), runBy_returned]
            rfl
          · rw [runBy_returned]
  | succ attempts ih =>
      rw [runBy_of_result?_eq_none r _ t rfl, TempFile.createWithin_succ]
      show r.runBy _ (r.tryName t tried (draws tried)).1 (r.tryName t tried (draws tried)).2 = _
      unfold tryName
      cases TempFile.attempt t r.directory r.pattern r.mode (draws tried) with
      | ok created => rfl
      | error cause =>
          simp only [afterNaming]
          split
          · have hless : tried + 1 < TempFile.maxAttempts := by omega
            rw [if_pos hless]
            have hnext : tried + 1 + (attempts + 1) = TempFile.maxAttempts := by omega
            rw [ih (tried + 1) hnext]
          · rw [runBy_returned]

end Replacement

end HostInventory
