import HostInventory.Proofs.FileTree.Changes

/-!
# Ways through a file tree

Where a path leads depends on the directories and links of a tree, and on nothing else in it. A
`Walk` is a way through directories and links; following a path to a directory is a walk
(`walk_of_follow`), and a walk can be followed further (`Walk.follow`). So a tree with the
directories of another and no further links has no new ways, and the paths that still lead to a
directory in it lead to the same one (`locateParent_of_noNewWays`).
-/

namespace HostInventory.FileTree

/-! ## Walks -/

/-- The names that lead one directory down, and are no longer than the system takes. -/
def isStep (name : String) : Prop :=
  name ≠ "" ∧ name ≠ "." ∧ name ≠ ".." ∧ ¬ maxName < name.utf8ByteSize

/-- Where a link leads from the directory in which it is. -/
def linkStart (place : Place) (target : String) : Place :=
  if Path.isAbsolute target.toList then [] else place

/-- Names lead from a place to another through directories and links, with so many links that may
still be followed before and after. -/
inductive Walk (t : FileTree) : Nat → Place → List String → Nat → Place → Prop where
  | stop (links : Nat) (place : Place) : Walk t links place [] links place
  | skip {links links' : Nat} {place place' : Place} {rest : List String}
      (walk : Walk t links place rest links' place') : Walk t links place ("" :: rest) links' place'
  | stay {links links' : Nat} {place place' : Place} {rest : List String}
      (hs : t.canSearch place = true) (walk : Walk t links place rest links' place') :
      Walk t links place ("." :: rest) links' place'
  | up {links links' : Nat} {place place' : Place} {rest : List String}
      (hs : t.canSearch place = true) (walk : Walk t links place.dropLast rest links' place') :
      Walk t links place (".." :: rest) links' place'
  | down {links links' : Nat} {place place' : Place} {name : String} {rest : List String}
      {mode : Nat} (hs : t.canSearch place = true) (hn : isStep name)
      (he : t.get? (place ++ [name]) = some (.directory mode))
      (walk : Walk t links (place ++ [name]) rest links' place') :
      Walk t links place (name :: rest) links' place'
  | across {links links' : Nat} {place place' : Place} {name target : String}
      {rest : List String} (hs : t.canSearch place = true) (hn : isStep name)
      (he : t.get? (place ++ [name]) = some (.link target))
      (walk : Walk t links (linkStart place target) (names target ++ rest) links' place') :
      Walk t (links + 1) place (name :: rest) links' place'

/-- A walk can be followed, and then further. -/
theorem Walk.follow {t : FileTree} {links links' : Nat} {place place' : Place}
    {rest : List String} (h : Walk t links place rest links' place') (more : List String) :
    t.follow links place (rest ++ more) = t.follow links' place' more := by
  induction h with
  | stop links place => rfl
  | skip walk ih =>
      rw [List.cons_append, FileTree.follow, if_pos rfl]
      exact ih
  | stay hs walk ih =>
      rw [List.cons_append, FileTree.follow]
      simpa [hs] using ih
  | up hs walk ih =>
      rw [List.cons_append, FileTree.follow]
      simpa [hs] using ih
  | down hs hn he walk ih =>
      obtain ⟨hne, hdot, hup, hlen⟩ := hn
      rw [List.cons_append, FileTree.follow]
      simpa [hs, hne, hdot, hup, hlen, he] using ih
  | across hs hn he walk ih =>
      obtain ⟨hne, hdot, hup, hlen⟩ := hn
      rw [List.cons_append, FileTree.follow]
      simp only [hs, hne, hdot, hup, hlen, he, if_false, Bool.not_true, Bool.false_eq_true]
      rw [← List.append_assoc]
      exact ih

theorem Walk.follow_taken {t : FileTree} {links links' : Nat} {place place' : Place}
    {rest : List String} (h : Walk t links place rest links' place') :
    t.follow links place rest = .ok (.taken place') := by
  have hstop := h.follow []
  rw [List.append_nil] at hstop
  rw [hstop, FileTree.follow]

/-- What is followed past some names, to another name or to a directory, is a walk as far as these
names go. -/
theorem walk_of_follow {t : FileTree} {more : List String} {s : Spot}
    (hmore : (∃ name ∈ more, name ≠ "") ∨
      ∃ place mode, s = .taken place ∧ t.get? place = some (.directory mode)) :
    ∀ (links : Nat) (place : Place) (rest : List String),
      t.follow links place (rest ++ more) = .ok s →
        ∃ links' place', Walk t links place rest links' place' ∧
          t.follow links' place' more = .ok s
  | links, place, [], h => ⟨links, place, .stop links place, h⟩
  | links, place, name :: rest, h => by
      rw [List.cons_append, FileTree.follow] at h
      split at h
      · rename_i hname
        subst hname
        obtain ⟨l, p, walk, hf⟩ := walk_of_follow hmore links place rest h
        exact ⟨l, p, .skip walk, hf⟩
      · rename_i hne
        split at h
        · cases h
        · rename_i hs
          replace hs : t.canSearch place = true := by simpa using hs
          split at h
          · rename_i hname
            subst hname
            obtain ⟨l, p, walk, hf⟩ := walk_of_follow hmore links place rest h
            exact ⟨l, p, .stay hs walk, hf⟩
          · rename_i hdot
            split at h
            · rename_i hname
              subst hname
              obtain ⟨l, p, walk, hf⟩ := walk_of_follow hmore links place.dropLast rest h
              exact ⟨l, p, .up hs walk, hf⟩
            · rename_i hup
              split at h
              · cases h
              · rename_i hlen
                have hn : isStep name := ⟨hne, hdot, hup, hlen⟩
                split at h
                · rename_i he
                  split at h
                  · rename_i hall
                    obtain rfl := Except.ok.inj h
                    rcases hmore with ⟨n, hmem, hn⟩ | ⟨p, m, hp, -⟩
                    · refine absurd ?_ hn
                      simpa using List.all_eq_true.mp hall n (List.mem_append_right _ hmem)
                    · cases hp
                  · cases h
                · rename_i mode he
                  obtain ⟨l, p, walk, hf⟩ := walk_of_follow hmore links (place ++ [name]) rest h
                  exact ⟨l, p, .down hs hn he walk, hf⟩
                · rename_i he
                  split at h
                  · rename_i hempty
                    obtain rfl := Except.ok.inj h
                    rcases hmore with ⟨n, hmem, -⟩ | ⟨p, m, hp, hm⟩
                    · have := List.append_eq_nil_iff.mp (List.isEmpty_iff.mp hempty)
                      rw [this.2] at hmem
                      cases hmem
                    · obtain rfl := Spot.taken.inj hp
                      rw [he] at hm
                      cases hm
                  · cases h
                · rename_i target he
                  split at h
                  · cases h
                  · rename_i links
                    dsimp only at h
                    rw [← List.append_assoc] at h
                    obtain ⟨l, p, walk, hf⟩ := walk_of_follow hmore links
                      (linkStart place target) (names target ++ rest) h
                    exact ⟨l, p, .across hs hn he walk, hf⟩
termination_by links _ rest => (links, rest.length)

/-! ## Trees without new ways -/

/-- A tree has the directories of another, and no links but its links. -/
structure NoNewWays (t₀ t : FileTree) : Prop where
  cwd : t.cwd = t₀.cwd
  directory : ∀ {place : Place} {mode : Nat},
    t.get? place = some (.directory mode) ↔ t₀.get? place = some (.directory mode)
  link : ∀ {place : Place} {target : String},
    t.get? place = some (.link target) → t₀.get? place = some (.link target)

namespace NoNewWays

variable {t₀ t : FileTree}

theorem refl (t : FileTree) : NoNewWays t t :=
  ⟨rfl, Iff.rfl, id⟩

/-- A file is put where no directory is. -/
theorem put_file (h : NoNewWays t₀ t) {place : Place}
    (hp : ∀ mode, t.get? place ≠ some (.directory mode)) (mode : Nat) (content : Octets) :
    NoNewWays t₀ (t.put place (.file mode content)) := by
  refine ⟨h.cwd, fun {p m} => ?_, fun {p target} hl => ?_⟩
  · by_cases hpp : p = place
    · subst hpp
      rw [get?_put_self]
      exact ⟨nofun, fun hm => absurd (h.directory.mpr hm) (hp m)⟩
    · rw [get?_put_of_ne t _ hpp]
      exact h.directory
  · by_cases hpp : p = place
    · subst hpp
      rw [get?_put_self] at hl
      cases hl
    · rw [get?_put_of_ne t _ hpp] at hl
      exact h.link hl

/-- What is no directory is taken away. -/
theorem erase (h : NoNewWays t₀ t) {place : Place}
    (hp : ∀ mode, t.get? place ≠ some (.directory mode)) : NoNewWays t₀ (t.erase place) := by
  refine ⟨h.cwd, fun {p m} => ?_, fun {p target} hl => ?_⟩
  · by_cases hpp : p = place
    · subst hpp
      rw [get?_erase_self]
      exact ⟨nofun, fun hm => absurd (h.directory.mpr hm) (hp m)⟩
    · rw [get?_erase_of_ne t hpp]
      exact h.directory
  · by_cases hpp : p = place
    · subst hpp
      rw [get?_erase_self] at hl
      cases hl
    · rw [get?_erase_of_ne t hpp] at hl
      exact h.link hl

/-- What holds of directories only holds of the same places. -/
theorem test_eq (h : NoNewWays t₀ t) {test : Entry → Bool}
    (htest : ∀ e, test e = true → ∃ mode, e = .directory mode) (place : Place) :
    ((t.get? place).map test).getD false = ((t₀.get? place).map test).getD false := by
  have hkeep : ∀ {u u' : FileTree}, (∀ mode, u.get? place = some (.directory mode) →
      u'.get? place = some (.directory mode)) → ((u.get? place).map test).getD false = true →
        ((u'.get? place).map test).getD false = true := by
    intro u u' hdir hu
    cases he : u.get? place with
    | none =>
        rw [he] at hu
        cases hu
    | some e =>
        rw [he] at hu
        obtain ⟨mode, rfl⟩ := htest e hu
        rw [hdir mode he]
        exact hu
  exact Bool.eq_iff_iff.mpr ⟨hkeep fun _ => h.directory.mp, hkeep fun _ => h.directory.mpr⟩

theorem canSearch_eq (h : NoNewWays t₀ t) (place : Place) :
    t.canSearch place = t₀.canSearch place := by
  refine h.test_eq (fun e he => ?_) place
  cases e with
  | directory mode => exact ⟨mode, rfl⟩
  | _ => cases he

theorem canChange_eq (h : NoNewWays t₀ t) (place : Place) :
    t.canChange place = t₀.canChange place := by
  refine h.test_eq (fun e he => ?_) place
  cases e with
  | directory mode => exact ⟨mode, rfl⟩
  | _ => cases he

theorem walk (h : NoNewWays t₀ t) {links links' : Nat} {place place' : Place}
    {rest : List String} (hw : Walk t links place rest links' place') :
    Walk t₀ links place rest links' place' := by
  induction hw with
  | stop links place => exact .stop links place
  | skip _ ih => exact .skip ih
  | stay hs _ ih => exact .stay (h.canSearch_eq _ ▸ hs) ih
  | up hs _ ih => exact .up (h.canSearch_eq _ ▸ hs) ih
  | down hs hn he _ ih => exact .down (h.canSearch_eq _ ▸ hs) hn (h.directory.mp he) ih
  | across hs hn he _ ih => exact .across (h.canSearch_eq _ ▸ hs) hn (h.link he) ih

theorem startOf (h : NoNewWays t₀ t) (path : String) : t.startOf path = t₀.startOf path := by
  rw [FileTree.startOf, FileTree.startOf, h.cwd]

end NoNewWays

/-- The directory in front of the last name is at the end of a walk. -/
theorem walk_of_locateParent {t : FileTree} {path : String} {directory : Place} {last : LastName}
    (h : t.locateParent path = .ok (directory, last)) :
    ∃ links, Walk t maxLinks (t.startOf path) (cutLast path).1 links directory := by
  obtain ⟨-, -, hf, ⟨mode, hm⟩, -⟩ := locateParent_eq_ok h
  rw [← List.append_nil (cutLast path).1] at hf
  obtain ⟨links, place, walk, hstop⟩ :=
    walk_of_follow (Or.inr ⟨directory, mode, rfl, hm⟩) _ _ _ hf
  rw [FileTree.follow] at hstop
  obtain rfl := Spot.taken.inj (Except.ok.inj hstop)
  exact ⟨links, walk⟩

/-- A directory that is still found is the one that was found before. -/
theorem locateParent_of_noNewWays {t₀ t : FileTree} (hw : NoNewWays t₀ t) {path : String}
    {directory : Place} {last : LastName} (h : t.locateParent path = .ok (directory, last)) :
    t₀.locateParent path = .ok (directory, last) := by
  obtain ⟨links, walk⟩ := walk_of_locateParent h
  obtain ⟨hc, rfl, -, ⟨mode, hm⟩, hs⟩ := locateParent_eq_ok h
  have hf := (hw.walk walk).follow_taken
  rw [hw.startOf] at hf
  exact locateParent_of_follow hc hf (hw.directory.mp hm) (hw.canSearch_eq _ ▸ hs)

theorem named?_of_noNewWays {t₀ t : FileTree} (hw : NoNewWays t₀ t) {path : String}
    {place : Place} (h : t.named? path = some place) : t₀.named? path = some place := by
  obtain ⟨directory, name, hp, rfl⟩ := named?_eq_some h
  exact named?_of_locateParent (locateParent_of_noNewWays hw hp)

/-- As long as links are kept but at its place, a path names it still, unless a link was there that
led to the directory of the place. -/
theorem named?_of_links_kept {t₀ t : FileTree} (hw : NoNewWays t₀ t) {path : String} {place : Place}
    (hp : t₀.named? path = some place)
    (hkept : ∀ {p : Place} {target : String}, p ≠ place → t₀.get? p = some (.link target) →
      t.get? p = some (.link target)) :
    t.named? path = some place ∨
      (t.named? path = none ∧ ∃ target, t₀.get? place = some (.link target)) := by
  by_cases hlink : ∃ target, t₀.get? place = some (.link target)
  · cases hn : t.named? path with
    | none => exact Or.inr ⟨rfl, hlink⟩
    | some place' =>
        have hn₀ := named?_of_noNewWays hw hn
        exact Or.inl (hn₀.symm.trans hp)
  · have hback : t.NoNewWays t₀ := by
      refine ⟨hw.cwd.symm, hw.directory.symm, fun {p target} hl => hkept ?_ hl⟩
      rintro rfl
      exact hlink ⟨target, hl⟩
    exact Or.inl (named?_of_noNewWays hback hp)

/-- A path to a file leads to the place that it names. -/
theorem locate_eq_named? {t₀ t : FileTree} (hw : NoNewWays t₀ t) {path : String}
    {place place' : Place} {mode : Nat} {content : Octets} (h : t₀.named? path = some place)
    (hfile : t.get? place = some (.file mode content)) (hl : t.locate path = .ok place') :
    place' = place := by
  obtain ⟨directory, name, hp, rfl⟩ := named?_eq_some h
  obtain ⟨-, -, hf, -⟩ := locateParent_eq_ok hp
  obtain ⟨hnames, hne, hdot, hup⟩ := names_of_locateParent hp
  have hall := locate_eq_ok hl
  rw [hnames] at hall
  obtain ⟨links, d, walk, hend⟩ :=
    walk_of_follow (Or.inl ⟨name, List.mem_singleton.mpr rfl, hne⟩) _ _ _ hall
  -- the walk ends in the directory of the place, since it is one through the first tree as well
  have hd := (hw.walk walk).follow_taken
  rw [hw.startOf, hf] at hd
  obtain rfl := Spot.taken.inj (Except.ok.inj hd)
  rw [FileTree.follow] at hend
  simp only [hne, hdot, hup, hfile, if_false, List.isEmpty_nil, if_true] at hend
  split at hend
  · cases hend
  · split at hend
    · cases hend
    · exact (Spot.taken.inj (Except.ok.inj hend)).symm

end HostInventory.FileTree
