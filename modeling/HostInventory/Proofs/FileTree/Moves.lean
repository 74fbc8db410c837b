import HostInventory.Proofs.FileTree.Changeable
import HostInventory.Proofs.FileTree.TempName

/-!
# What one step of a replacement changes

The inversion of `Replacement.step` for a replacement that works in a tree which others change as
well. The tree has had no new ways since it was first seen as `t₀`, so the paths of a replacement
still name the places in `t₀`, and what the replacement has brought about so far stands in its
temporary file (`Owns`). Then each step changes the temporary file only, or moves the finished file
to the target (`Move`).
-/

namespace HostInventory.Replacement

namespace Stage

/-- The temporary file of a replacement at a stage. -/
def temp? : Stage → Option TempFile
  | naming _ => none
  | writing temp _ => some temp
  | syncing temp => some temp
  | settingMode temp => some temp
  | moving temp => some temp
  | removing temp _ => some temp
  | returned _ => none

/-- Whether permission bits and octets of the temporary file are those that it has at a stage. -/
def Fits (r : Replacement) (mode : Nat) (octets : Octets) : Stage → Prop
  | writing _ left => octets ++ left = r.content
  | syncing _ => octets = r.content
  | settingMode _ => octets = r.content
  | moving _ => octets = r.content ∧ mode = r.mode &&& 0o7777
  | _ => True

/-- Whether the step between two stages renames the temporary file over the target. -/
def moves : Stage → Stage → Bool
  | moving _, returned (.ok _) => true
  | _, _ => false

theorem moves_of_temp? {s s' : Stage} {temp : TempFile} (h : s'.temp? = some temp) :
    s.moves s' = false := by
  cases s' with
  | naming _ => cases h
  | returned _ => cases h
  | _ => cases s <;> rfl

end Stage

/-- What a replacement has of a tree: the temporary file where its path led in the first tree, where
nothing was then. -/
structure Owns (t₀ t : FileTree) (r : Replacement) (s : Stage) (temp : TempFile) : Prop where
  named : t₀.named? temp.path = some temp.place
  free : t₀.get? temp.place = none
  notTarget : t₀.named? r.path ≠ some temp.place
  holds : ∃ mode octets, t.get? temp.place = some (.file mode octets) ∧ s.Fits r mode octets

/-- What one step of a replacement changes. -/
inductive Move (t₀ t : FileTree) (r : Replacement) : Stage → FileTree → Stage → Prop where
  /-- The tree is left alone. -/
  | rest {s s' : Stage} (ht : s'.temp? = s.temp?) (hm : s.moves s' = false)
      (hf : ∀ mode octets, s.Fits r mode octets → s'.Fits r mode octets) : Move t₀ t r s t s'
  | create {tried : Nat} {temp : TempFile} {mode : Nat}
      (hp : t₀.Changeable temp.path temp.place) (ht : t₀.named? r.path ≠ some temp.place)
      (hf : t.get? temp.place = none) :
      Move t₀ t r (.naming tried) (t.put temp.place (.file mode [])) (.writing temp r.content)
  | change {s s' : Stage} {temp : TempFile} {mode : Nat} {octets : Octets}
      (hs : s.temp? = some temp) (hs' : s'.temp? = some temp) (hf : s'.Fits r mode octets) :
      Move t₀ t r s (t.put temp.place (.file mode octets)) s'
  | replace {temp : TempFile} {target : Place} (ht : t₀.Changeable r.path target)
      (hd : ∀ mode, t.get? target ≠ some (.directory mode)) :
      Move t₀ t r (.moving temp)
        ((t.erase temp.place).put target (.file (r.mode &&& 0o7777) r.content))
        (.returned (.ok ()))
  | remove {temp : TempFile} {cause : FileError} :
      Move t₀ t r (.removing temp cause) (t.erase temp.place) (.returned (.error cause))
  /-- The temporary file cannot be taken away. -/
  | leave {temp : TempFile} {cause : FileError} {e : SystemError}
      (he : t.unlink temp.path = .error e) :
      Move t₀ t r (.removing temp cause) t (.returned (.error cause))

theorem outcome_eq_ok {α : Type} {chance : Chance} {answer : Except SystemError α} {a : α}
    (h : chance.outcome answer = .ok a) : answer = .ok a := by
  unfold Chance.outcome at h
  split at h
  · exact h
  · cases h

variable {t₀ t : FileTree} {r : Replacement}

theorem move_tryName (hw : t₀.NoNewWays t) (tried number : Nat) :
    Move t₀ t r (.naming tried) (r.tryName t tried number).1 (r.tryName t tried number).2 := by
  unfold tryName
  split
  · rename_i temp t' h
    obtain ⟨hpath, hp, hfree, rfl⟩ := TempFile.attempt_eq_ok h
    have hp₀ := hp.of_noNewWays hw
    exact .create hp₀ (fun ht => temp_ne_target ht (hpath ▸ hp₀.named) rfl) hfree
  · simp only [afterNaming]
    split
    · split
      · exact .rest rfl rfl fun _ _ => id
      · exact .rest rfl rfl fun _ _ => id
    · exact .rest rfl rfl fun _ _ => id

theorem append_of_file {temp : TempFile} {mode : Nat} {octets more : Octets}
    (h : t.get? temp.place = some (.file mode octets)) :
    t.append temp.place more = t.put temp.place (.file mode (octets ++ more)) := by
  rw [FileTree.append, h]

/-- Every step of a replacement is a move. -/
theorem move_of_step (hw : t₀.NoNewWays t) {s : Stage}
    (ho : ∀ temp, s.temp? = some temp → Owns t₀ t r s temp) (chance : Chance) :
    Move t₀ t r s (r.step chance t s).1 (r.step chance t s).2 := by
  cases s with
  | naming tried =>
      simp only [step]
      split
      · exact move_tryName hw tried chance.number
      · exact .rest rfl rfl fun _ _ => id
  | writing temp left =>
      obtain ⟨mode, octets, hfile, hfits⟩ := (ho temp rfl).holds
      cases left with
      | nil =>
          refine .rest rfl rfl fun mode octets h => ?_
          exact (List.append_nil octets).symm.trans h
      | cons octet left =>
          simp only [step]
          split
          · rw [append_of_file hfile]
            refine .change rfl rfl ?_
            show octets ++ (octet :: left.take chance.extra) ++ left.drop chance.extra = r.content
            rw [List.append_assoc, List.cons_append, List.take_append_drop]
            exact hfits
          · exact .rest rfl rfl fun _ _ _ => trivial
  | syncing temp =>
      simp only [step]
      split
      · exact .rest rfl rfl fun _ _ h => h
      · exact .rest rfl rfl fun _ _ _ => trivial
  | settingMode temp =>
      have htemp := ho temp rfl
      obtain ⟨mode, octets, hfile, hfits⟩ := htemp.holds
      simp only [step]
      split
      · rename_i t' h
        obtain ⟨place, e, hl, he, rfl⟩ := FileTree.setMode_eq_ok (outcome_eq_ok h)
        obtain rfl := FileTree.locate_eq_named? hw htemp.named hfile hl
        obtain rfl := Option.some.inj (hfile.symm.trans he)
        exact .change rfl rfl ⟨hfits, rfl⟩
      · exact .rest rfl rfl fun _ _ _ => trivial
  | moving temp =>
      have htemp := ho temp rfl
      obtain ⟨mode, octets, hfile, rfl, rfl⟩ := htemp.holds
      simp only [step]
      split
      · rename_i t' h
        obtain ⟨source, target, e, hs, ht, he, -, hd, rfl⟩ :=
          FileTree.rename_eq_ok (outcome_eq_ok h)
        obtain rfl := Option.some.inj (htemp.named.symm.trans (hs.of_noNewWays hw).named)
        obtain rfl := Option.some.inj (hfile.symm.trans he)
        exact .replace (ht.of_noNewWays hw) hd
      · exact .rest rfl rfl fun _ _ _ => trivial
  | removing temp cause =>
      simp only [step]
      cases h : t.unlink temp.path with
      | error e => exact .leave h
      | ok t' =>
          obtain ⟨place, e, hp, -, -, rfl⟩ := FileTree.unlink_eq_ok h
          obtain rfl := Option.some.inj
            ((ho temp rfl).named.symm.trans (hp.of_noNewWays hw).named)
          exact .remove
  | returned result => exact .rest rfl rfl fun _ _ => id

end HostInventory.Replacement
