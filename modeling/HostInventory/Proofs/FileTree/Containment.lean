import HostInventory.Proofs.FileTree.Creation
import HostInventory.Proofs.Path.Parent

/-!
# Where temporary files are

The name of a temporary file is joined to its directory as a path. When the pattern is a name, the
file is in the directory under the pattern with nine digits and `.tmp` behind it, and at no other
place. A pattern with a slash is read as a path, too: what stands before its last slash leads to
where the file is, up from the directory or to the root if it says so (`inside_iff_not_mem`).
-/

namespace HostInventory

namespace FileTree

variable {t : FileTree}

/-! ## The directory in front of a name -/

theorem names_append_slash (xs ys : List Char) :
    names (String.ofList (xs ++ '/' :: ys)) =
      names (String.ofList xs) ++ names (String.ofList ys) := by
  simp only [names, String.toList_ofList, Path.segments_append_slash, List.map_append]

theorem names_of_not_mem {last : List Char} (h : '/' ∉ last) :
    names (String.ofList last) = [String.ofList last] := by
  rw [names, String.toList_ofList, Path.segments_of_not_mem h, List.map_singleton]

theorem startOf_append (t : FileTree) {xs : List Char} (hne : xs ≠ []) (ys : List Char) :
    t.startOf (String.ofList (xs ++ ys)) = t.startOf (String.ofList xs) := by
  obtain ⟨c, rest, rfl⟩ := List.exists_cons_of_ne_nil hne
  simp only [startOf, String.toList_ofList]
  rfl

theorem checkPath_eq_ok_iff {path : String} :
    checkPath path = .ok () ↔
      '\x00' ∉ path.toList ∧ path ≠ "" ∧ path.utf8ByteSize ≤ maxPath := by
  unfold checkPath
  split_ifs <;> simp_all

/-- The system takes the beginning of a path that it takes. -/
theorem checkPath_of_append {xs ys : List Char} (hne : xs ≠ [])
    (h : checkPath (String.ofList (xs ++ ys)) = .ok ()) :
    checkPath (String.ofList xs) = .ok () := by
  obtain ⟨hnul, -, hlen⟩ := checkPath_eq_ok_iff.mp h
  rw [String.ofList_append, String.utf8ByteSize_append] at hlen
  rw [String.toList_ofList, List.mem_append, not_or] at hnul
  refine checkPath_eq_ok_iff.mpr ⟨?_, ?_, (Nat.le_add_right _ _).trans hlen⟩
  · rw [String.toList_ofList]
    exact hnul.1
  · exact fun he => hne (String.ofList_eq_empty_iff.mp he)

theorem ne_nil_of_locate {path : List Char} {place : Place}
    (h : t.locate (String.ofList path) = .ok place) : path ≠ [] := by
  rintro rfl
  cases h

/-- The directory that holds an entry is where the path leads that stands in front of its name, with
the slash between them or without it. -/
theorem locate_front {front last : List Char} {directory : Place} {name : String}
    (hlast : '/' ∉ last)
    (h : t.locateParent (String.ofList (front ++ '/' :: last)) =
      .ok (directory, .name name false)) :
    name = String.ofList last ∧ t.locate (String.ofList (front ++ ['/'])) = .ok directory ∧
      ∀ place, t.locate (String.ofList front) = .ok place → place = directory := by
  obtain ⟨hc, -⟩ := locateParent_eq_ok h
  obtain ⟨links, walk⟩ := walk_of_locateParent h
  obtain ⟨hnames, -⟩ := names_of_locateParent h
  rw [names_append_slash, names_of_not_mem hlast] at hnames
  obtain ⟨hfront, hsame⟩ := List.append_inj' hnames rfl
  rw [← hfront] at walk
  have hslash : front ++ ['/'] ≠ [] := by simp
  have hpath : front ++ '/' :: last = front ++ ['/'] ++ last := by simp
  refine ⟨(List.singleton_inj.mp hsame).symm, ?_, fun place hplace => ?_⟩
  · rw [hpath] at hc
    rw [hpath, startOf_append t hslash] at walk
    refine locate_of_follow (checkPath_of_append hslash hc) ?_
    rw [names_append_slash, walk.follow, names_of_not_mem List.not_mem_nil]
    simp only [follow, String.ofList_nil, if_true]
  · rw [startOf_append t (ne_nil_of_locate hplace)] at walk
    have hend := (locate_eq_ok hplace).symm.trans walk.follow_taken
    exact Spot.taken.inj (Except.ok.inj hend)

end FileTree

namespace TempFile

variable {t t' : FileTree} {directory pattern : String} {mode number : Nat} {draws : Draws}
  {temp : TempFile} {place : Place}

theorem isTelling_name (h : '/' ∉ pattern.toList) (number : Nat) :
    Path.IsTelling (name pattern number).toList ∧ (name pattern number).toList ≠ Path.up := by
  have hlen := length_name pattern number
  have hne : ∀ short : List Char, short.length < 4 → (name pattern number).toList ≠ short := by
    rintro short hshort rfl
    omega
  refine ⟨⟨not_mem_name h number, Bool.eq_false_iff.mpr fun hidle => ?_⟩, hne Path.up (by decide)⟩
  rcases Path.isIdle_iff.mp hidle with hnil | hhere
  · exact hne [] (by decide) hnil
  · exact hne Path.here (by decide) hhere

/-- A file whose pattern is a name is in the directory under its own name. -/
theorem place_of_not_mem (hdir : t.locate directory = .ok place)
    (h : t.Changeable (pathIn directory pattern number) temp.place)
    (hpattern : '/' ∉ pattern.toList) : temp.place = place ++ [name pattern number] := by
  have hname := not_mem_name hpattern number
  rw [← String.ofList_toList (s := directory)] at hdir
  obtain ⟨parent, last, hp, -, -, hplace⟩ := h
  rcases Path.join_eq_or directory.toList (Path.isAbsolute_of_not_mem hname) with
    ⟨hnil, -⟩ | ⟨-, front, hjoin, hfront⟩
  · exact absurd hnil (FileTree.ne_nil_of_locate hdir)
  · rw [pathIn, hjoin] at hp
    obtain ⟨rfl, hslash, hbare⟩ := FileTree.locate_front hname hp
    rw [hplace, String.ofList_toList]
    rcases hfront with hfront | hfront
    · rw [hbare place (hfront ▸ hdir)]
    · rw [hfront, hslash] at hdir
      rw [Except.ok.inj hdir]

/-- A file whose pattern has a slash is where the path before the last slash leads. -/
theorem place_of_slash (h : t.Changeable (pathIn directory pattern number) temp.place)
    {above last : List Char} (hpattern : pattern.toList = above ++ '/' :: last)
    (hlast : '/' ∉ last) :
    ∃ other, t.locate (String.ofList (Path.join directory.toList (above ++ ['/']))) = .ok other ∧
      temp.place = other ++ [name (String.ofList last) number] := by
  have hname : '/' ∉ (name (String.ofList last) number).toList :=
    not_mem_name (by rwa [String.toList_ofList]) number
  have hbehind : (name pattern number).toList =
      above ++ '/' :: (name (String.ofList last) number).toList := by
    simp [toList_name, hpattern]
  obtain ⟨front, hjoin⟩ := Path.exists_join_eq directory.toList above
  obtain ⟨parent, last', hp, -, -, hplace⟩ := h
  rw [pathIn, hbehind, hjoin] at hp
  obtain ⟨rfl, hslash, -⟩ := FileTree.locate_front hname hp
  rw [String.ofList_toList] at hplace
  exact ⟨parent, hjoin [] ▸ hslash, hplace⟩

/-- A temporary file is created where nothing was, with nine digits and `.tmp` behind its pattern.
It is in its directory under that name just if the pattern has no slash, and then the directory is
the parent of its path as well. If the pattern has a slash, the file is where the path before the
last slash leads, as it is seen from the directory. -/
theorem inside_iff_not_mem (hdir : t.locate directory = .ok place)
    (h : create t directory pattern mode draws = .ok (temp, t')) :
    t.get? temp.place = none ∧ t'.get? temp.place = some (.file (t.newMode mode) []) ∧
    ∃ digits : List Char, digits.length = 9 ∧ (∀ c ∈ digits, Decimal.isDigit c = true) ∧
      temp.path.toList =
        Path.join directory.toList (pattern.toList ++ digits ++ ending.toList) ∧
      (temp.place = place ++ [String.ofList (pattern.toList ++ digits ++ ending.toList)] ↔
        '/' ∉ pattern.toList) ∧
      ('/' ∉ pattern.toList →
        Path.fileName? temp.path.toList = some (pattern.toList ++ digits ++ ending.toList) ∧
        ∃ parent, Path.parent? temp.path.toList = some parent ∧
          Path.components parent = Path.components directory.toList) ∧
      ∀ above last, pattern.toList = above ++ '/' :: last → '/' ∉ last →
        ∃ other,
          t.locate (String.ofList (Path.join directory.toList (above ++ ['/']))) = .ok other ∧
          temp.place = other ++ [String.ofList (last ++ digits ++ ending.toList)] := by
  obtain ⟨number, hattempt⟩ := exists_attempt h
  obtain ⟨hpath, hchange, hfree, rfl⟩ := attempt_eq_ok hattempt
  rw [hpath] at hchange
  have hwritten : temp.path.toList = Path.join directory.toList (name pattern number).toList := by
    rw [hpath, pathIn, String.toList_ofList]
  refine ⟨hfree, FileTree.get?_put_self _ _ _, Decimal.padded 9 (number % 1000000000),
    length_padded number,
    fun c => Decimal.isDigit_of_mem_padded, ?_, ⟨fun hplace => ?_, fun hpattern => ?_⟩,
    fun hpattern => ?_, fun above last hpattern hlast => ?_⟩
  · rw [hwritten, toList_name]
  · -- the last name of a place is a segment of its path
    have hnamed := hchange.named
    rw [hplace] at hnamed
    obtain ⟨hlast, -⟩ := FileTree.lastSegment_of_named? hnamed
    have hslash := hlast ▸ Path.not_mem_lastSegment _
    rw [String.toList_ofList] at hslash
    exact fun hmem => hslash (by simp [hmem])
  · rw [place_of_not_mem hdir hchange hpattern, name_eq]
  · obtain ⟨htelling, hup⟩ := isTelling_name hpattern number
    rw [hwritten, ← toList_name]
    exact Path.parent?_join directory.toList htelling hup
  · obtain ⟨other, hother, hplace⟩ := place_of_slash hchange hpattern hlast
    refine ⟨other, hother, ?_⟩
    rw [hplace, name_eq, String.toList_ofList]

/-! A directory in the working directory, and files that are created in it and outside. -/

def nestedTree : FileTree where
  entries := [([], .directory 0o755), (["w"], .directory 0o755), (["w", "d"], .directory 0o755)]
  cwd := ["w"]
  umask := 0o022

theorem walk_nestedTree {links : Nat} {rest : List String} {place : Place}
    (walk : nestedTree.Walk links ["w", "d"] rest links place) :
    nestedTree.Walk links ["w"] ("d" :: rest) links place :=
  .down rfl ⟨by decide, by decide, by decide, by decide +kernel⟩ rfl walk

theorem locate_nestedTree : nestedTree.locate "d" = .ok ["w", "d"] :=
  FileTree.locate_of_follow (by decide +kernel) (walk_nestedTree (.stop _ _)).follow_taken

theorem create_nestedTree (pattern name : String) (front : List String) {start parent : Place}
    {links : Nat} (hcheck : FileTree.checkPath (pathIn "d" pattern 7) = .ok ())
    (hstart : nestedTree.startOf (pathIn "d" pattern 7) = start)
    (hcut : FileTree.cutLast (pathIn "d" pattern 7) = (front, .name name false))
    (walk : nestedTree.Walk FileTree.maxLinks start front links parent)
    (hparent : nestedTree.get? parent = some (.directory 0o755))
    (hlen : ¬ FileTree.maxName < name.utf8ByteSize)
    (hfree : nestedTree.get? (parent ++ [name]) = none) :
    ∃ t', create nestedTree "d" pattern 0o600 (fun _ => 7) =
      .ok (⟨pathIn "d" pattern 7, parent ++ [name]⟩, t') := by
  have hsearch : nestedTree.canSearch parent = true := by
    rw [FileTree.canSearch, hparent]
    rfl
  have hchange : nestedTree.canChange parent = true := by
    rw [FileTree.canChange, hparent]
    rfl
  have hp := FileTree.locateParent_of_follow hcheck (hcut ▸ hstart ▸ walk.follow_taken) hparent
    hsearch
  rw [hcut] at hp
  exact ⟨_, create_of_attempt
    (attempt_of_changeable ⟨parent, name, hp, hlen, hchange, rfl⟩ hfree 0o600)⟩

theorem inside_iff_not_mem_nested :
    nestedTree.locate "d" = .ok ["w", "d"] ∧
    ∃ temp t' digits, create nestedTree "d" "x" 0o600 (fun _ => 7) = .ok (temp, t') ∧
      temp.place = ["w", "d"] ++ [String.ofList ("x".toList ++ digits ++ ending.toList)] := by
  obtain ⟨t', hcreate⟩ := create_nestedTree "x" "x000000007.tmp" ["d"] (by decide +kernel)
    (by decide +kernel) (by decide +kernel) (walk_nestedTree (.stop _ _)) rfl (by decide +kernel)
    (by decide +kernel)
  obtain ⟨-, -, digits, -, -, -, hplace, -⟩ := inside_iff_not_mem locate_nestedTree hcreate
  exact ⟨locate_nestedTree, _, t', digits, hcreate, hplace.mpr (by decide)⟩

/-- Patterns lead out of the directory. -/
theorem created_outside :
    nestedTree.locate "d" = .ok ["w", "d"] ∧
    (∃ temp t', create nestedTree "d" "../esc" 0o600 (fun _ => 7) = .ok (temp, t') ∧
      temp.path = "d/../esc000000007.tmp" ∧ temp.place = ["w", "esc000000007.tmp"]) ∧
    ∃ temp t', create nestedTree "d" "/esc" 0o600 (fun _ => 7) = .ok (temp, t') ∧
      temp.path = "/esc000000007.tmp" ∧ temp.place = ["esc000000007.tmp"] := by
  refine ⟨locate_nestedTree, ?_, ?_⟩
  · obtain ⟨t', hcreate⟩ := create_nestedTree "../esc" "esc000000007.tmp" ["d", ".."]
      (by decide +kernel) (by decide +kernel) (by decide +kernel)
      (walk_nestedTree (.up rfl (.stop _ _))) rfl (by decide +kernel) (by decide +kernel)
    exact ⟨_, t', hcreate, by decide +kernel, rfl⟩
  · obtain ⟨t', hcreate⟩ := create_nestedTree "/esc" "esc000000007.tmp" [""] (by decide +kernel)
      (by decide +kernel) (by decide +kernel) (.skip (.stop _ [])) rfl (by decide +kernel)
      (by decide +kernel)
    exact ⟨_, t', hcreate, by decide +kernel, rfl⟩

end TempFile

end HostInventory
