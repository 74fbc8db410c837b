import HostInventory.Proofs.FileTree.Effect

/-!
# All or nothing

What replacing a file does to a tree, as seen from outside: nothing if it fails
(`failure_changes_nothing`), and if it succeeds the new file at the target and nothing else
(`replaced_exactly`).
-/

namespace HostInventory

namespace FileTree

open Replacement

section

variable {t : FileTree} {path : String} {content : Octets} {mode : Nat} {draws : Draws}

theorem replace_of_create_error {c : FileError}
    (h : TempFile.create t (⟨path, content, mode⟩ : Replacement).directory
      (⟨path, content, mode⟩ : Replacement).pattern mode draws = .error c) :
    t.replace path content mode draws = (t, .error (.creatingTemp c)) := by
  obtain ⟨attempts, hmax⟩ : ∃ attempts, TempFile.maxAttempts = attempts + 1 := ⟨9999, rfl⟩
  rw [TempFile.create, hmax] at h
  rw [replace, run_eq_runBy, runBy_naming _ _ _ attempts 0 (by omega), h]

theorem replace_of_create {temp : TempFile} {t' : FileTree}
    (h : TempFile.create t (⟨path, content, mode⟩ : Replacement).directory
      (⟨path, content, mode⟩ : Replacement).pattern mode draws = .ok (temp, t')) :
    AtWork t ⟨path, content, mode⟩ t' (.writing temp content) ∧
      t.replace path content mode draws =
        (⟨path, content, mode⟩ : Replacement).runBy
          ((⟨path, content, mode⟩ : Replacement).smoothChance draws) t'
          (.writing temp content) := by
  obtain ⟨attempts, hmax⟩ : ∃ attempts, TempFile.maxAttempts = attempts + 1 := ⟨9999, rfl⟩
  rw [TempFile.create, hmax] at h
  obtain ⟨number, hattempt⟩ := TempFile.exists_attempt h
  refine ⟨atWork_of_attempt hattempt, ?_⟩
  rw [replace, run_eq_runBy, runBy_naming _ _ _ attempts 0 (by omega), h]

/-- A replacement that gets its temporary file succeeds where a file can go. -/
theorem isOk_replace {created : TempFile × FileTree}
    (h : TempFile.create t (⟨path, content, mode⟩ : Replacement).directory
      (⟨path, content, mode⟩ : Replacement).pattern mode draws = .ok created)
    (hr : Replaceable t path) : (t.replace path content mode draws).2 = .ok () := by
  obtain ⟨hwork, heq⟩ := replace_of_create h
  cases hresult : (t.replace path content mode draws).2 with
  | ok done => rfl
  | error cause =>
      rw [heq] at hresult
      exact absurd hr (hwork.unmovable trivial (fault_smoothChance _ draws) hresult).2

end

/-- A replacement that fails leaves the tree in which it began, whichever of its steps the system
lets fail; when the system lets none fail, what fails is creating the temporary file or renaming it.
Creating a temporary file that fails leaves the tree as well. -/
theorem failure_changes_nothing (t : FileTree) (path : String) (content : Octets) (mode : Nat) :
    let r : Replacement := ⟨path, content, mode⟩
    (∀ chance t' cause, r.runBy chance t (.naming 0) = (t', .error cause) → t' = t) ∧
    (∀ draws t' cause, t.replace path content mode draws = (t', .error cause) →
      t' = t ∧
        ((∃ c, TempFile.create t r.directory r.pattern mode draws = .error c ∧
            cause = .creatingTemp c) ∨
          ∃ source e, cause = .moving source path e)) ∧
    (∀ directory pattern chance t' cause,
      TempFile.createBy directory pattern mode chance TempFile.maxAttempts 0 t =
        (t', .error cause) → t' = t) ∧
    (∀ directory pattern draws cause,
      TempFile.create t directory pattern mode draws = .error cause →
        TempFile.createBy directory pattern mode (fun n => ⟨draws n, 0, none⟩)
          TempFile.maxAttempts 0 t = (t, .error cause)) := by
  intro r
  have hfails : ∀ chance t' cause, r.runBy chance t (.naming 0) = (t', .error cause) → t' = t := by
    intro chance t' cause h
    have heffect := effect_runBy r chance t 0
    rw [h] at heffect
    cases heffect with
    | failed _ => rfl
  refine ⟨hfails, fun draws t' cause h => ⟨?_, ?_⟩,
    fun directory pattern chance t' cause h => TempFile.tree_of_createBy_error h,
    fun directory pattern draws cause h => TempFile.createBy_of_createWithin h⟩
  · rw [replace, run_eq_runBy] at h
    exact hfails _ t' cause h
  · cases hc : TempFile.create t r.directory r.pattern mode draws with
    | error c =>
        rw [replace_of_create_error hc] at h
        obtain ⟨-, hcause⟩ := Prod.mk.inj h
        exact .inl ⟨c, rfl, (Except.error.inj hcause).symm⟩
    | ok created =>
        obtain ⟨hwork, heq⟩ := replace_of_create hc
        rw [heq] at h
        exact .inr (hwork.unmovable trivial (fault_smoothChance _ draws) (congrArg Prod.snd h)).1

/-! A tree with a link, the file to which it leads, and a directory. -/

def sampleTree : FileTree where
  entries := [([], .directory 0o755), (["state"], .link "data"), (["data"], .file 0o600 [1]),
    (["site"], .directory 0o755)]
  cwd := []
  umask := 0o077

theorem changeable_sampleTree {path name : String} (hcheck : checkPath path = .ok ())
    (hstart : Path.isAbsolute path.toList = false)
    (hfront : ∀ segment ∈ (cutLast path).1, segment = ".")
    (hlast : (cutLast path).2 = .name name false) (hlen : ¬ maxName < name.utf8ByteSize) :
    sampleTree.Changeable path [name] :=
  changeable_here rfl (by decide) (by decide) hcheck hstart hfront hlast hlen

theorem create_sampleTree (path : String) (content : Octets) (mode : Nat) {temp name : String}
    (hpath : TempFile.pathIn (⟨path, content, mode⟩ : Replacement).directory
      (⟨path, content, mode⟩ : Replacement).pattern 7 = temp)
    (hp : sampleTree.Changeable temp [name]) (hfree : sampleTree.get? [name] = none) :
    ∃ created, TempFile.create sampleTree (⟨path, content, mode⟩ : Replacement).directory
      (⟨path, content, mode⟩ : Replacement).pattern mode (fun _ => 7) = .ok created := by
  rw [← hpath] at hp
  exact ⟨_, TempFile.create_of_attempt (TempFile.attempt_of_changeable hp hfree mode)⟩

/-- A file does not go where a directory is, and its temporary file is taken away. -/
theorem failure_changes_nothing_directory :
    ∃ t' cause, sampleTree.replace "site" [2, 3] 0o644 (fun _ => 7) = (t', .error cause) ∧
      t' = sampleTree ∧ ∃ source e, cause = .moving source "site" e := by
  have htemp : sampleTree.Changeable "./site000000007.tmp" ["site000000007.tmp"] :=
    changeable_sampleTree (by decide +kernel) (by decide +kernel) (by decide +kernel)
      (by decide +kernel) (by decide +kernel)
  obtain ⟨created, hcreate⟩ := create_sampleTree "site" [2, 3] 0o644
    (by decide +kernel) htemp (by decide +kernel)
  have hnamed : sampleTree.named? "site" = some ["site"] :=
    (changeable_sampleTree (by decide +kernel) (by decide +kernel) (by decide +kernel)
      (by decide +kernel) (by decide +kernel)).named
  have heffect := effect_runBy ⟨"site", [2, 3], 0o644⟩
    ((⟨"site", [2, 3], 0o644⟩ : Replacement).smoothChance fun _ => 7) sampleTree 0
  rw [← run_eq_runBy] at heffect
  cases hdone : sampleTree.replace "site" [2, 3] 0o644 (fun _ => 7) with
  | mk t' result =>
      rw [replace] at hdone
      rw [hdone] at heffect
      cases heffect with
      | replaced hp hd =>
          obtain rfl := Option.some.inj (hnamed.symm.trans hp.named)
          exact absurd rfl (hd 0o755)
      | failed cause =>
          obtain ⟨-, hsmooth, -⟩ := failure_changes_nothing sampleTree "site" [2, 3] 0o644
          obtain ⟨htree, ⟨c, hc, -⟩ | hmoving⟩ := hsmooth _ _ cause hdone
          · rw [hcreate] at hc
            cases hc
          · exact ⟨_, cause, rfl, htree, hmoving⟩

/-- What a replacement that succeeds has done: at the place that the path names is the new file,
with the permission bits that were asked for, and everything else is as it was. The path still leads
there, unless a link was there that the way itself went through. Replacing the file by the same once
more changes nothing, and succeeds where a temporary file can be created and the path leads
somewhere. -/
theorem replaced_exactly {t t' : FileTree} {path : String} {content : Octets} {mode : Nat}
    {chance : Stage → Chance}
    (h : (⟨path, content, mode⟩ : Replacement).runBy chance t (.naming 0) = (t', .ok ())) :
    let r : Replacement := ⟨path, content, mode⟩
    ∃ target, t.named? path = some target ∧ (∀ m, t.get? target ≠ some (.directory m)) ∧
      (t'.named? path = some target ∨
        (t'.named? path = none ∧ ∃ l, t.get? target = some (.link l))) ∧
      t'.get? target = some (.file (mode &&& 0o7777) content) ∧
      (∀ place, place ≠ target → t'.get? place = t.get? place) ∧
      t'.cwd = t.cwd ∧ t'.umask = t.umask ∧
      (∀ chance', (r.runBy chance' t' (.naming 0)).1 = t') ∧
      (∀ draws created, TempFile.create t' r.directory r.pattern mode draws = .ok created →
        t'.named? path ≠ none → t'.replace path content mode draws = (t', .ok ())) := by
  intro r
  have heffect := effect_runBy r chance t 0
  simp only [r, h] at heffect
  have hways := heffect.noNewWays
  have hagain : ∀ chance', (r.runBy chance' t' (.naming 0)).1 = t' := fun chance' =>
    heffect.eq_of_again rfl (effect_runBy r chance' t' 0)
  obtain ⟨target, hp, hd⟩ : Replaceable t path := by
    cases heffect with
    | replaced hp hd => exact ⟨_, hp, hd⟩
  refine ⟨target, hp.named, hd, heffect.named?_target hp.named, heffect.get?_target hp.named,
    fun place hne => heffect.get?_of_ne fun hnamed => hne ?_, hways.cwd, ?_, hagain,
    fun draws created hc hn => Prod.ext ?_ ?_⟩
  · exact Option.some.inj (hnamed.symm.trans hp.named)
  · cases heffect
    rfl
  · rw [replace, run_eq_runBy]
    exact hagain _
  · exact isOk_replace hc ⟨target, hp.of_named? hways hn, fun m hm => hd m (hways.directory.mp hm)⟩

/-- A link is replaced and not followed. -/
theorem replaced_exactly_link :
    ∃ t', sampleTree.replace "state" [2, 3] 0o644 (fun _ => 7) = (t', .ok ()) ∧
      t'.get? ["state"] = some (.file 0o644 [2, 3]) ∧ t'.get? ["data"] = some (.file 0o600 [1]) ∧
      (t'.replace "state" [2, 3] 0o644 (fun _ => 8)).1 = t' := by
  have htemp : sampleTree.Changeable "./state000000007.tmp" ["state000000007.tmp"] :=
    changeable_sampleTree (by decide +kernel) (by decide +kernel) (by decide +kernel)
      (by decide +kernel) (by decide +kernel)
  obtain ⟨created, hcreate⟩ := create_sampleTree "state" [2, 3] 0o644
    (by decide +kernel) htemp (by decide +kernel)
  have htarget : sampleTree.Changeable "state" ["state"] :=
    changeable_sampleTree (by decide +kernel) (by decide +kernel) (by decide +kernel)
      (by decide +kernel) (by decide +kernel)
  have hok := isOk_replace hcreate ⟨["state"], htarget, nofun⟩
  cases hdone : sampleTree.replace "state" [2, 3] 0o644 (fun _ => 7) with
  | mk t' result =>
      rw [hdone] at hok
      obtain rfl : result = .ok () := hok
      have hrun := hdone
      rw [replace, run_eq_runBy] at hrun
      obtain ⟨target, hnamed, -, -, hfile, hother, -, -, hagain, -⟩ := replaced_exactly hrun
      obtain rfl := Option.some.inj (htarget.named.symm.trans hnamed)
      refine ⟨t', rfl, hfile, (hother ["data"] (by decide)).trans rfl, ?_⟩
      rw [replace, run_eq_runBy]
      exact hagain _

end FileTree

end HostInventory
