import HostInventory.Proofs.FileTree.Named

/-!
# What operations on a file tree change

An operation that succeeds makes one change at the places that its paths name. These are the
inversions of the operations: what has held when they succeed, and the tree that they leave.
-/

namespace HostInventory.FileTree

variable {t t' : FileTree}

theorem ok_of_guard {ε α : Type} {c : Prop} [Decidable c] {e : ε} {k : Unit → Except ε α} {a : α}
    (h : (if c then (throw e : Except ε Unit) >>= k else k ()) = .ok a) :
    ¬ c ∧ k () = .ok a := by
  split at h
  · cases h
  · exact ⟨‹¬ c›, h⟩

theorem error_of_guard {ε α : Type} {c : Prop} [Decidable c] {e cause : ε}
    {k : Unit → Except ε α}
    (h : (if c then (throw e : Except ε Unit) >>= k else k ()) = .error cause) :
    (c ∧ cause = e) ∨ (¬ c ∧ k () = .error cause) := by
  split at h
  · exact .inl ⟨‹c›, (Except.error.inj h).symm⟩
  · exact .inr ⟨‹¬ c›, h⟩

/-- Creating a file puts an empty one where nothing was. -/
theorem createNew_eq_ok {path : String} {mode : Nat} {place : Place}
    (h : t.createNew path mode = .ok (place, t')) :
    t.Changeable path place ∧ t.get? place = none ∧
      t' = t.put place (.file (t.newMode mode) []) := by
  unfold createNew at h
  obtain ⟨⟨directory, last⟩, hp, h⟩ := ok_of_bind h
  match last, h with
  | .special, h => cases h
  | .name _ true, h => cases h
  | .name name false, h =>
      obtain ⟨hlen, h⟩ := ok_of_guard h
      obtain ⟨hfree, h⟩ := ok_of_guard h
      obtain ⟨hchange, h⟩ := ok_of_guard h
      obtain ⟨rfl, rfl⟩ := Prod.mk.inj (Except.ok.inj h)
      exact ⟨⟨directory, name, hp, hlen, by simpa using hchange, rfl⟩, by simpa using hfree, rfl⟩

/-- Renaming moves an entry that is no directory to where no directory is. -/
theorem rename_eq_ok {source target : String} (h : t.rename source target = .ok t') :
    ∃ from' to' e, t.Changeable source from' ∧ t.Changeable target to' ∧
      t.get? from' = some e ∧ e.isDirectory = false ∧
      (∀ mode, t.get? to' ≠ some (.directory mode)) ∧ t' = (t.erase from').put to' e := by
  unfold rename at h
  obtain ⟨⟨sourceDir, sourceLast⟩, hs, h⟩ := ok_of_bind h
  obtain ⟨⟨targetDir, targetLast⟩, ht, h⟩ := ok_of_bind h
  match sourceLast, targetLast, h with
  | .special, .special, h => cases h
  | .special, .name _ _, h => cases h
  | .name _ _, .special, h => cases h
  | .name sourceName sourceSlashed, .name targetName targetSlashed, h =>
      obtain ⟨hslen, h⟩ := ok_of_guard h
      cases he : t.get? (sourceDir ++ [sourceName]) with
      | none =>
          rw [he] at h
          cases h
      | some e =>
          rw [he] at h
          obtain ⟨htlen, h⟩ := ok_of_guard h
          obtain ⟨hfile, h⟩ := ok_of_guard h
          obtain ⟨hslashed, h⟩ := ok_of_guard h
          obtain ⟨hchange, h⟩ := ok_of_guard h
          obtain ⟨hover, h⟩ := ok_of_guard h
          have hout := Except.ok.inj h
          simp only [Bool.or_eq_true, not_or, Bool.not_eq_true, Bool.not_eq_false']
            at hslashed hchange
          obtain ⟨rfl, rfl⟩ := hslashed
          refine ⟨_, _, e, ⟨sourceDir, sourceName, hs, hslen, hchange.1, rfl⟩,
            ⟨targetDir, targetName, ht, htlen, hchange.2, rfl⟩, he, by simpa using hfile,
            fun mode hm => ?_, hout.symm⟩
          rw [hm] at hover
          exact hover rfl

/-- Unlinking takes away an entry that is no directory. -/
theorem unlink_eq_ok {path : String} (h : t.unlink path = .ok t') :
    ∃ place e, t.Changeable path place ∧ t.get? place = some e ∧ e.isDirectory = false ∧
      t' = t.erase place := by
  unfold unlink at h
  obtain ⟨⟨directory, last⟩, hp, h⟩ := ok_of_bind h
  match last, h with
  | .special, h => cases h
  | .name name slashed, h =>
      obtain ⟨hlen, h⟩ := ok_of_guard h
      cases he : t.get? (directory ++ [name]) with
      | none =>
          rw [he] at h
          cases h
      | some e =>
          rw [he] at h
          obtain ⟨hfile, h⟩ := ok_of_guard h
          obtain ⟨hslashed, h⟩ := ok_of_guard h
          obtain ⟨hchange, h⟩ := ok_of_guard h
          have hout := Except.ok.inj h
          obtain rfl := Bool.eq_false_iff.mpr hslashed
          exact ⟨_, e, ⟨directory, name, hp, hlen, by simpa using hchange, rfl⟩, he,
            by simpa using hfile, hout.symm⟩

/-- Where a path leads when it leads somewhere. -/
theorem locate_eq_ok {path : String} {place : Place} (h : t.locate path = .ok place) :
    t.follow maxLinks (t.startOf path) (names path) = .ok (.taken place) := by
  unfold locate spot at h
  obtain ⟨s, hs, h⟩ := ok_of_bind h
  obtain ⟨_, -, hs⟩ := ok_of_bind hs
  cases s with
  | taken place' => rw [hs, Except.ok.inj h]
  | vacant directory name => cases h

theorem locate_of_follow {path : String} {place : Place} (hc : checkPath path = .ok ())
    (hf : t.follow maxLinks (t.startOf path) (names path) = .ok (.taken place)) :
    t.locate path = .ok place := by
  simp only [locate, spot, hc, hf, bind, Except.bind]
  rfl

/-- Setting the permission bits changes them where the path leads. -/
theorem setMode_eq_ok {path : String} {mode : Nat} (h : t.setMode path mode = .ok t') :
    ∃ place e, t.locate path = .ok place ∧ t.get? place = some e ∧
      t' = t.put place (e.withMode (mode &&& 0o7777)) := by
  unfold setMode at h
  obtain ⟨place, hp, h⟩ := ok_of_bind h
  cases he : t.get? place with
  | none =>
      rw [he] at h
      cases h
  | some e =>
      rw [he] at h
      exact ⟨place, e, hp, he, (Except.ok.inj h).symm⟩

end HostInventory.FileTree
