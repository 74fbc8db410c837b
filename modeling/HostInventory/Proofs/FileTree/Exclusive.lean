import HostInventory.Proofs.FileTree.Effect

/-!
# Temporary files take nothing over

Creating a temporary file succeeds just if some candidate, below the limit, may be created while
those before it meet entries (`create_eq_ok_iff`). Then one empty file is put in front of the
entries of the tree, which stay as they were. That the candidate was free is what makes the names of
temporary files different: while anything is at the path of one, no other gets that path
(`path_ne_of_create`), whatever numbers are drawn.
-/

namespace HostInventory

namespace FileTree

/-- A new entry has the permission bits that are asked for but for those that are withheld. -/
theorem testBit_newMode (t : FileTree) (mode i : Nat) :
    (t.newMode mode).testBit i = (decide (i < 12) && mode.testBit i && !t.umask.testBit i) := by
  have hmask : Nat.testBit 0o7777 i = decide (i < 12) := Nat.testBit_two_pow_sub_one 12 i
  rw [newMode, Nat.testBit_and, Nat.testBit_and, Nat.testBit_xor, Nat.testBit_and, hmask]
  cases decide (i < 12) <;> simp

theorem put_of_free {t : FileTree} {place : Place} (h : t.get? place = none) (e : Entry) :
    t.put place e = { t with entries := (place, e) :: t.entries } := by
  rw [put, erase_of_get?_eq_none t h]

end FileTree

namespace TempFile

variable {t t' : FileTree} {directory pattern : String} {mode : Nat} {draws : Draws}
  {temp : TempFile}

/-- The candidate at a position was created, and what is there then. -/
structure Created (t : FileTree) (directory pattern : String) (mode : Nat) (draws : Draws)
    (tried : Nat) (temp : TempFile) (t' : FileTree) : Prop where
  tried_lt : tried < maxAttempts
  /-- Something is at the path of each candidate before. -/
  taken : ∀ i < tried, t.IsTaken (pathIn directory pattern (draws i))
  path : temp.path = pathIn directory pattern (draws tried)
  changeable : t.Changeable temp.path temp.place
  free : t.get? temp.place = none
  added : ∃ bits,
    (∀ i, bits.testBit i = (decide (i < 12) && mode.testBit i && !t.umask.testBit i)) ∧
    t' = { t with entries := (temp.place, .file bits []) :: t.entries }

theorem create_eq_ok_iff : create t directory pattern mode draws = .ok (temp, t') ↔
    ∃ tried, Created t directory pattern mode draws tried temp t' := by
  rw [create, createWithin_eq_ok_iff]
  simp only [Nat.zero_add]
  constructor
  · rintro ⟨tried, hlt, htaken, hok⟩
    obtain ⟨hpath, hchange, hfree, ht⟩ := attempt_eq_ok hok
    rw [FileTree.put_of_free hfree] at ht
    exact ⟨tried, hlt, htaken, hpath, hchange, hfree, _, t.testBit_newMode mode, ht⟩
  · rintro ⟨tried, hlt, htaken, hpath, hchange, hfree, bits, hbits, ht⟩
    have hmode : bits = t.newMode mode :=
      Nat.eq_of_testBit_eq fun i => (hbits i).trans (t.testBit_newMode mode i).symm
    rw [hmode, ← FileTree.put_of_free hfree] at ht
    exact ⟨tried, hlt, htaken, attempt_eq_ok_iff.mpr ⟨hpath, hchange, hfree, ht⟩⟩

theorem Created.get?_eq {tried : Nat} (h : Created t directory pattern mode draws tried temp t') :
    ∃ bits, (∀ i, bits.testBit i = (decide (i < 12) && mode.testBit i && !t.umask.testBit i)) ∧
      ∀ place, t'.get? place =
        if place = temp.place then some (.file bits []) else t.get? place := by
  obtain ⟨bits, hbits, rfl⟩ := h.added
  refine ⟨bits, hbits, fun place => ?_⟩
  rw [← FileTree.put_of_free h.free]
  split_ifs with hplace
  · rw [hplace, FileTree.get?_put_self]
  · exact FileTree.get?_put_of_ne t _ hplace

theorem Created.named?_eq {tried : Nat}
    (h : Created t directory pattern mode draws tried temp t') :
    t'.named? temp.path = some temp.place := by
  obtain ⟨bits, -, rfl⟩ := h.added
  rw [← FileTree.put_of_free h.free]
  exact FileTree.named?_of_noNewWays (Replacement.noNewWays_of_put_temp h.free bits [])
    h.changeable.named

/-- A path at which something is goes to no new file. -/
theorem path_ne_of_create (h : create t directory pattern mode draws = .ok (temp, t'))
    {path : String} {place : Place} {e : Entry} (hpath : t.named? path = some place)
    (he : t.get? place = some e) : temp.path ≠ path := by
  rintro rfl
  obtain ⟨tried, hcreated⟩ := create_eq_ok_iff.mp h
  obtain rfl := Option.some.inj (hcreated.changeable.named.symm.trans hpath)
  cases hcreated.free.symm.trans he

/-- A temporary file is created just if a candidate below the limit may be created and those before
it meet entries, and then one empty file is there in addition, with the bits of its mode that are
not withheld. Another one, created in whatever the tree has become, has another path as long as
anything is at the path of the first, and another place as long as anything is at its place. -/
theorem never_takes_over (t : FileTree) (directory pattern : String) (mode : Nat) (draws : Draws) :
    (∀ temp t', create t directory pattern mode draws = .ok (temp, t') ↔
      ∃ tried, Created t directory pattern mode draws tried temp t') ∧
    ∀ first t', create t directory pattern mode draws = .ok (first, t') →
      (∃ bits, (∀ i, bits.testBit i =
          (decide (i < 12) && mode.testBit i && !t.umask.testBit i)) ∧
        ∀ place, t'.get? place =
          if place = first.place then some (.file bits []) else t.get? place) ∧
      t'.named? first.path = some first.place ∧
      ∀ later directory' pattern' mode' draws' second later',
        create later directory' pattern' mode' draws' = .ok (second, later') →
        (∀ place e, later.named? first.path = some place → later.get? place = some e →
          second.path ≠ first.path) ∧
        (∀ e, later.get? first.place = some e → second.place ≠ first.place) := by
  refine ⟨fun temp t' => create_eq_ok_iff, fun first t' hfirst => ?_⟩
  obtain ⟨tried, hcreated⟩ := create_eq_ok_iff.mp hfirst
  refine ⟨hcreated.get?_eq, hcreated.named?_eq, ?_⟩
  intro later directory' pattern' mode' draws' second later' hsecond
  refine ⟨fun place e hpath he => path_ne_of_create hsecond hpath he, fun e he hplace => ?_⟩
  obtain ⟨tried', hcreated'⟩ := create_eq_ok_iff.mp hsecond
  rw [← hplace, hcreated'.free] at he
  cases he

/-! A directory in which the first candidates are a link that leads nowhere, a directory and a
file. -/

def crowdedTree : FileTree where
  entries := [([], .directory 0o755), (["x000000000.tmp"], .link "nowhere"),
    (["x000000001.tmp"], .directory 0o755), (["x000000002.tmp"], .file 0o600 [1])]
  cwd := []
  umask := 0o022

theorem locateParent_crowded {t : FileTree} (hcwd : t.cwd = [])
    (hroot : t.get? [] = some (.directory 0o755)) {number : Nat} (hnumber : number < 5) :
    t.locateParent (pathIn "." "x" number) = .ok ([], .name (name "x" number) false) := by
  have hcandidate : ∀ number < 5, FileTree.checkPath (pathIn "." "x" number) = .ok () ∧
      Path.isAbsolute (pathIn "." "x" number).toList = false ∧
      FileTree.cutLast (pathIn "." "x" number) = (["."], .name (name "x" number) false) := by
    decide +kernel
  obtain ⟨hcheck, hstart, hcut⟩ := hcandidate number hnumber
  rw [← hcwd] at hroot ⊢
  refine FileTree.locateParent_here hroot ?_ hcheck hstart ?_ ?_
  · rw [FileTree.canSearch, hroot]
    rfl
  · rw [hcut]
    exact fun segment => List.eq_of_mem_singleton
  · rw [hcut]

theorem created_crowded {t : FileTree} {tried : Nat} (hcwd : t.cwd = [])
    (hroot : t.get? [] = some (.directory 0o755)) (hmask : t.umask = 0o022) (hlt : tried < 5)
    (htaken : ∀ i < tried, (t.get? [name "x" i]).isSome = true)
    (hfree : t.get? [name "x" tried] = none) :
    Created t "." "x" 0o666 id tried ⟨pathIn "." "x" tried, [name "x" tried]⟩
      (t.put [name "x" tried] (.file 0o644 [])) := by
  have hlen : ∀ number < 5, ¬ FileTree.maxName < (name "x" number).utf8ByteSize := by
    decide +kernel
  have hchange : t.canChange [] = true := by
    rw [FileTree.canChange, hroot]
    rfl
  have hbits : (0o644 : Nat) = t.newMode 0o666 := by
    rw [FileTree.newMode, hmask]
    rfl
  refine ⟨hlt.trans (by decide), fun i hi => ?_, rfl,
    ⟨[], _, locateParent_crowded hcwd hroot hlt, hlen tried hlt, hchange, rfl⟩, hfree,
    0o644, hbits ▸ t.testBit_newMode 0o666, FileTree.put_of_free hfree _⟩
  obtain ⟨e, he⟩ := Option.isSome_iff_exists.mp (htaken i hi)
  have hi' := hi.trans hlt
  exact ⟨[], _, e, locateParent_crowded hcwd hroot hi', hlen i hi', he⟩

/-- The second file is created at the candidate behind that of the first. -/
theorem never_takes_over_crowded :
    ∃ first t' second t'', create crowdedTree "." "x" 0o666 id = .ok (first, t') ∧
      first.path = "./x000000003.tmp" ∧ t'.get? ["x000000003.tmp"] = some (.file 0o644 []) ∧
      t'.get? ["x000000000.tmp"] = some (.link "nowhere") ∧
      create t' "." "x" 0o666 id = .ok (second, t'') ∧ second.path ≠ first.path := by
  have hfirst := ((never_takes_over crowdedTree "." "x" 0o666 id).1 _ _).mpr
    ⟨3, created_crowded rfl rfl rfl (by decide) (by decide +kernel) (by decide +kernel)⟩
  obtain ⟨-, hnamed, hlater⟩ := (never_takes_over crowdedTree "." "x" 0o666 id).2 _ _ hfirst
  have hsecond := ((never_takes_over _ "." "x" 0o666 id).1 _ _).mpr
    ⟨4, created_crowded (t := crowdedTree.put [name "x" 3] (.file 0o644 [])) rfl
      (by decide +kernel) rfl (by decide) (by decide +kernel) (by decide +kernel)⟩
  have hfile : (crowdedTree.put [name "x" 3] (.file 0o644 [])).get? [name "x" 3] =
      some (.file 0o644 []) := FileTree.get?_put_self _ _ _
  exact ⟨_, _, _, _, hfirst, by decide +kernel, by decide +kernel, by decide +kernel, hsecond,
    (hlater _ "." "x" 0o666 id _ _ hsecond).1 _ _ hnamed hfile⟩

end TempFile

end HostInventory
