import HostInventory.Proofs.FileTree.Ways

/-!
# Places that may be changed

Creating, moving and removing an entry ask the same of the path that names it (`Changeable`): an
operation that finds it succeeds, as far as the entries allow. Creating a file meets an entry just
where the path names one (`createNew_collides_iff`): no other failure looks like that. In a tree
without new ways the same places may be changed, as long as the path still leads there
(`Changeable.of_named?`).
-/

namespace HostInventory.FileTree

variable {t : FileTree} {path : String} {place : Place}

/-! ## Operations that succeed -/

theorem createNew_of_changeable (h : t.Changeable path place) (hfree : t.get? place = none)
    (mode : Nat) :
    t.createNew path mode = .ok (place, t.put place (.file (t.newMode mode) [])) := by
  obtain ⟨directory, name, hp, hlen, hchange, rfl⟩ := h
  simp only [createNew, hp, bind, Except.bind, hlen, hfree, hchange, if_false, Bool.not_true,
    Option.isSome_none, Bool.false_eq_true]
  rfl

theorem unlink_of_changeable (h : t.Changeable path place) {e : Entry} (he : t.get? place = some e)
    (hfile : e.isDirectory = false) : t.unlink path = .ok (t.erase place) := by
  obtain ⟨directory, name, hp, hlen, hchange, rfl⟩ := h
  unfold unlink
  simp only [hp, bind, Except.bind, hlen, he, hfile, hchange, if_false, Bool.not_true,
    Bool.false_eq_true]
  rfl

theorem rename_of_changeable {source target : String} {from' to' : Place}
    (hs : t.Changeable source from') (ht : t.Changeable target to') {e : Entry}
    (he : t.get? from' = some e) (hfile : e.isDirectory = false)
    (hd : ∀ mode, t.get? to' ≠ some (.directory mode)) :
    t.rename source target = .ok ((t.erase from').put to' e) := by
  obtain ⟨sourceDir, sourceName, hsource, hslen, hschange, rfl⟩ := hs
  obtain ⟨targetDir, targetName, htarget, htlen, htchange, rfl⟩ := ht
  have hover : ((t.get? (targetDir ++ [targetName])).map Entry.isDirectory).getD false = false := by
    cases hto : t.get? (targetDir ++ [targetName]) with
    | none => rfl
    | some e' =>
        cases e' with
        | directory mode => exact absurd hto (hd mode)
        | file _ _ => rfl
        | link _ => rfl
  unfold rename
  simp only [hsource, htarget, bind, Except.bind, hslen, htlen, he, hfile, hschange, htchange,
    hover, if_false, Bool.not_true, Bool.or_self, Bool.false_eq_true]
  rfl

/-- A path to a file leads to it. -/
theorem locate_of_changeable (h : t.Changeable path place) {mode : Nat} {content : Octets}
    (hfile : t.get? place = some (.file mode content)) : t.locate path = .ok place := by
  obtain ⟨directory, name, hp, hlen, -, rfl⟩ := h
  obtain ⟨hcheck, -, -, -, hsearch⟩ := locateParent_eq_ok hp
  obtain ⟨hnames, hne, hdot, hup⟩ := names_of_locateParent hp
  obtain ⟨links, walk⟩ := walk_of_locateParent hp
  have hend : t.follow links directory [name] = .ok (.taken (directory ++ [name])) := by
    rw [FileTree.follow]
    simp [hne, hdot, hup, hlen, hsearch, hfile]
  exact locate_of_follow hcheck (by rw [hnames, walk.follow, hend])

theorem setMode_of_changeable (h : t.Changeable path place) {mode : Nat} {content : Octets}
    (hfile : t.get? place = some (.file mode content)) (mode' : Nat) :
    t.setMode path mode' = .ok (t.put place (.file (mode' &&& 0o7777) content)) := by
  simp only [setMode, locate_of_changeable h hfile, hfile, bind, Except.bind]
  rfl

/-! ## Places that are taken -/

/-- Following names fails for many reasons, but not because something is there. -/
theorem kind_of_follow {links : Nat} {rest : List String} {cause : SystemError}
    (h : t.follow links place rest = .error cause) : cause.kind ≠ .alreadyExists := by
  fun_induction follow t links place rest with
  | case1 | case7 | case10 => cases h
  | case3 | case6 | case8 | case11 | case12 => cases h; decide
  | case2 _ _ _ ih => exact ih h
  | case4 _ _ _ _ _ ih => exact ih h
  | case5 _ _ _ _ _ _ ih => exact ih h
  | case9 _ _ _ _ _ _ _ _ _ _ _ ih => exact ih h
  | case13 _ _ _ _ _ _ _ _ _ _ _ _ ih => exact ih h

theorem kind_of_locateParent {cause : SystemError} (h : t.locateParent path = .error cause) :
    cause.kind ≠ .alreadyExists := by
  unfold locateParent at h
  rcases error_of_bind h with h | ⟨_, -, h⟩
  · unfold checkPath at h
    split_ifs at h <;> cases h <;> decide
  rcases error_of_bind h with h | ⟨s, -, h⟩
  · exact kind_of_follow h
  cases s with
  | vacant directory name => cases h; decide
  | taken place =>
      dsimp only at h
      split at h
      · split at h
        · cases h
        · cases h; decide
      · cases h; decide

/-- A path names an entry, of whatever sort, in a directory that can be searched. -/
def IsTaken (t : FileTree) (path : String) : Prop :=
  ∃ directory name e, t.locateParent path = .ok (directory, .name name false) ∧
    ¬ maxName < name.utf8ByteSize ∧ t.get? (directory ++ [name]) = some e

theorem createNew_of_isTaken (h : t.IsTaken path) (mode : Nat) :
    t.createNew path mode = .error .entryExists := by
  obtain ⟨directory, name, e, hp, hlen, he⟩ := h
  simp only [createNew, hp, bind, Except.bind, hlen, he, if_false, Option.isSome_some, if_true]
  rfl

/-- Creating a file meets an entry just where one is. -/
theorem createNew_collides_iff {mode : Nat} :
    (∃ cause, t.createNew path mode = .error cause ∧ cause.kind = .alreadyExists) ↔
      t.IsTaken path := by
  refine ⟨fun ⟨cause, h, hkind⟩ => ?_, fun h => ⟨_, createNew_of_isTaken h mode, by decide⟩⟩
  unfold createNew at h
  rcases error_of_bind h with h | ⟨⟨directory, last⟩, hp, h⟩
  · exact absurd hkind (kind_of_locateParent h)
  match last, h with
  | .special, h => cases h; exact absurd hkind (by decide)
  | .name _ true, h => cases h; exact absurd hkind (by decide)
  | .name name false, h =>
      rcases error_of_guard h with ⟨-, rfl⟩ | ⟨hlen, h⟩
      · exact absurd hkind (by decide)
      rcases error_of_guard h with ⟨he, -⟩ | ⟨-, h⟩
      · obtain ⟨e, he⟩ := Option.isSome_iff_exists.mp he
        exact ⟨directory, name, e, hp, hlen, he⟩
      rcases error_of_guard h with ⟨-, rfl⟩ | ⟨-, h⟩
      · exact absurd hkind (by decide)
      · cases h

/-! ## Trees without new ways -/

theorem Changeable.of_noNewWays {t₀ : FileTree} (hw : t₀.NoNewWays t)
    (h : t.Changeable path place) : t₀.Changeable path place := by
  obtain ⟨directory, name, hp, hlen, hchange, rfl⟩ := h
  rw [hw.canChange_eq] at hchange
  exact ⟨directory, name, locateParent_of_noNewWays hw hp, hlen, hchange, rfl⟩

/-- What may be changed may be changed still where the path still leads somewhere. -/
theorem Changeable.of_named? {t₀ : FileTree} (hw : t₀.NoNewWays t) (h : t₀.Changeable path place)
    (hn : t.named? path ≠ none) : t.Changeable path place := by
  obtain ⟨place', hplace⟩ := Option.ne_none_iff_exists'.mp hn
  obtain ⟨directory', name', hp', -⟩ := named?_eq_some hplace
  obtain ⟨directory, name, hp, hlen, hchange, rfl⟩ := h
  have hsame := hp.symm.trans (locateParent_of_noNewWays hw hp')
  obtain ⟨rfl, hlast⟩ := Prod.mk.inj (Except.ok.inj hsame)
  obtain ⟨rfl, -⟩ := LastName.name.inj hlast
  rw [← hw.canChange_eq] at hchange
  exact ⟨directory, name, hp', hlen, hchange, rfl⟩

end HostInventory.FileTree
