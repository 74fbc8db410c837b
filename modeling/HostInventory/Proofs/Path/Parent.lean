import HostInventory.Proofs.Path.Cleaning

/-!
# Parents go by components

The parent of a path and the path that joining makes are found on the text. What they are made of is
told by the components: joining a name adds one component (`components_join`), and the parent is
made of all but the last one (`components_parent?`). So a name that is joined to a directory has
that directory for its parent (`parent?_join`), though it may be written with fewer slashes and
dots.
-/

namespace HostInventory.Path

/-! ## What a text tells -/

/-- The components that the segments of a text stand for. -/
def told (text : List Char) : List Component :=
  (segments text).filterMap Component.ofSegment?

theorem components_eq (path : List Char) :
    components path = (Component.ofStart? (cutStart path).1).toList ++ told (cutStart path).2 := by
  rfl

theorem told_append_slash (xs ys : List Char) : told (xs ++ '/' :: ys) = told xs ++ told ys := by
  rw [told, segments_append_slash, List.filterMap_append]
  rfl

theorem told_of_not_mem {segment : List Char} (h : '/' ∉ segment) :
    told segment = (Component.ofSegment? segment).toList := by
  rw [told, segments_of_not_mem h, List.filterMap_cons, List.filterMap_nil]
  cases Component.ofSegment? segment <;> rfl

/-- What a text tells is what it tells before its last segment, and that segment. -/
theorem told_eq_append (text : List Char) :
    told text = told (beforeLast text.reverse).reverse ++
      (Component.ofSegment? (lastSegment text)).toList := by
  have hlast := not_mem_lastSegment text
  rw [← told_of_not_mem hlast]
  rcases eq_lastSegment_or text with h | ⟨front, h⟩
  · rw [beforeLast_of_not_mem (h ▸ hlast), ← h]
    rfl
  · have hbefore : beforeLast text.reverse = front.reverse := by
      rw [h]
      exact beforeLast_append_slash front hlast
    rw [hbefore, List.reverse_reverse, ← told_append_slash, ← h]

/-! ## Idle segments at the end -/

theorem told_skipIdle (reversed : List Char) :
    told (skipIdle reversed).reverse = told reversed.reverse := by
  fun_induction skipIdle reversed with
  | case1 => rfl
  | case2 c rest hidle ih =>
      rw [ih, told_eq_append (c :: rest).reverse, List.reverse_reverse, lastSegment,
        List.reverse_reverse, ofSegment?_of_isIdle hidle]
      exact (List.append_nil _).symm
  | case3 => rfl

theorem beforeLast_suffix (reversed : List Char) : beforeLast reversed <:+ reversed :=
  (List.drop_suffix 1 _).trans (List.dropWhile_suffix _)

theorem skipIdle_suffix (reversed : List Char) : skipIdle reversed <:+ reversed := by
  fun_induction skipIdle reversed with
  | case1 => exact List.suffix_rfl
  | case2 c rest hidle ih => exact ih.trans (beforeLast_suffix _)
  | case3 => exact List.suffix_rfl

theorem skipIdle_eq_nil_or (reversed : List Char) :
    skipIdle reversed = [] ∨ isIdle (lastSegment (skipIdle reversed).reverse) = false := by
  fun_induction skipIdle reversed with
  | case1 => exact .inl rfl
  | case2 c rest hidle ih => exact ih
  | case3 c rest hidle =>
      rw [lastSegment, List.reverse_reverse]
      exact .inr (Bool.eq_false_iff.mpr hidle)

/-! ## The start -/

theorem cutStart_eq_nil {path : List Char} (hroot : ∀ rest, path ≠ '/' :: rest)
    (hhere : path ≠ here) (hdot : ∀ rest, path ≠ '.' :: '/' :: rest) :
    cutStart path = ([], path) := by
  unfold cutStart
  split
  · exact absurd rfl (hroot _)
  · exact absurd rfl hhere
  · exact absurd rfl (hdot _)
  · rfl

/-- The start is cut off again in front of what is left of the rest. -/
theorem cutStart_append_of_prefix {path front : List Char} (h : front <+: (cutStart path).2)
    (hidle : front = [] ∨ isIdle (lastSegment front) = false) :
    cutStart ((cutStart path).1 ++ front) = ((cutStart path).1, front) := by
  revert h
  fun_cases cutStart path with
  | case1 rest => exact fun _ => rfl
  | case2 =>
      intro h
      rw [List.prefix_nil.mp h]
      rfl
  | case3 rest =>
      intro h
      rcases List.prefix_cons_iff.mp h with rfl | ⟨more, rfl, -⟩ <;> rfl
  | case4 _ hroot _ hdot =>
      rintro ⟨more, rfl⟩
      change cutStart front = ([], front)
      -- a dot can begin the path only as a part of a name, and is not left alone: it would be idle
      refine cutStart_eq_nil ?_ ?_ ?_
      · rintro rest rfl
        exact hroot (rest ++ more) rfl
      · rintro rfl
        rcases hidle with hnil | hlast
        · cases hnil
        · cases hlast
      · rintro rest rfl
        exact hdot (rest ++ more) rfl

/-- What stands behind a slash changes nothing before it. -/
theorem components_append_slash {front : List Char} (hne : front ≠ []) (more : List Char) :
    components (front ++ '/' :: more) = components front ++ told more := by
  rw [components_eq front]
  fun_cases cutStart front with
  | case1 rest =>
      rw [List.append_assoc, ← told_append_slash]
      rfl
  | case2 => rfl
  | case3 rest =>
      rw [List.append_assoc, ← told_append_slash]
      rfl
  | case4 _ hroot hhere hdot =>
      -- the slash does not make a start of what was none
      have hcut : cutStart (front ++ '/' :: more) = ([], front ++ '/' :: more) := by
        obtain ⟨c, rest, rfl⟩ := List.exists_cons_of_ne_nil hne
        refine cutStart_eq_nil (fun rest' he => ?_) (fun he => ?_) (fun rest' he => ?_)
        · obtain ⟨rfl, -⟩ := List.cons.inj he
          exact hroot rest rfl
        · simp [here] at he
        · cases rest with
          | nil =>
              obtain ⟨rfl, -⟩ := List.cons.inj he
              exact hhere rfl
          | cons c' rest =>
              obtain ⟨rfl, hrest⟩ := List.cons.inj he
              obtain ⟨hc, -⟩ := List.cons.inj hrest
              exact hdot rest (hc ▸ rfl)
      rw [components_eq, hcut, List.append_assoc, ← told_append_slash]

/-! ## Joining and the parent -/

theorem components_join (dir : List Char) {name : List Char} (h : IsTelling name)
    (hup : name ≠ up) :
    components (join dir name) = components dir ++ [.name name] := by
  have htold : told name = [.name name] := by
    rw [told_of_not_mem h.oneSegment, Component.ofSegment?, h.notIdle]
    simp [hup]
  rcases join_eq_or dir h.isAbsolute_eq with ⟨rfl, hjoin⟩ | ⟨hdir, front, hjoin, rfl | rfl⟩
  · have hcut : cutStart name = ([], name) :=
      @cutStart_ofSegments false [name] (List.forall_mem_singleton.mpr h)
    rw [hjoin, components_eq, hcut, htold]
    rfl
  · rw [hjoin, components_append_slash hdir, htold]
  · rw [hjoin]
    by_cases hfront : front = []
    · rw [hfront, components_eq]
      exact congrArg (Component.root :: ·) htold
    · rw [components_append_slash hfront, components_append_slash hfront, htold]
      exact congrArg (· ++ _) (List.append_nil _).symm

/-- The parent is made of all but the last component. -/
theorem components_parent? {path parent : List Char} (h : parent? path = some parent) :
    components parent = (components path).dropLast := by
  have hkeep := told_skipIdle (cutStart path).2.reverse
  have hlast := skipIdle_eq_nil_or (cutStart path).2.reverse
  have hsuffix := skipIdle_suffix (cutStart path).2.reverse
  rw [List.reverse_reverse] at hkeep
  rw [components_eq path, ← hkeep]
  unfold parent? at h
  dsimp only at h
  split at h
  · rename_i hnil
    split_ifs at h with hstart
    obtain rfl := Option.some.inj h
    rw [hnil, beq_iff_eq.mp hstart]
    rfl
  · rename_i hne
    obtain rfl := Option.some.inj h
    generalize hr : skipIdle (cutStart path).2.reverse = reversed at hlast hsuffix hne
    obtain ⟨c, hc⟩ := exists_ofSegment? (hlast.resolve_left hne)
    have hfront : (skipIdle (beforeLast reversed)).reverse <+: (cutStart path).2 := by
      refine List.reverse_suffix.mp ?_
      rw [List.reverse_reverse]
      exact (skipIdle_suffix _).trans ((beforeLast_suffix reversed).trans hsuffix)
    have hidle := (skipIdle_eq_nil_or (beforeLast reversed)).imp_left List.reverse_eq_nil_iff.mpr
    have htold : told reversed.reverse = told (beforeLast reversed).reverse ++ [c] := by
      rw [told_eq_append, hc, List.reverse_reverse]
      rfl
    rw [htold, ← List.append_assoc, List.dropLast_concat, components_eq,
      cutStart_append_of_prefix hfront hidle, told_skipIdle]

theorem exists_parent? {path name : List Char} (h : fileName? path = some name) :
    ∃ parent, parent? path = some parent := by
  unfold fileName? at h
  unfold parent?
  dsimp only
  split at h
  · cases h
  · exact ⟨_, rfl⟩

/-- A name that is joined to a directory is a file name, and the directory is its parent. -/
theorem parent?_join (dir : List Char) {name : List Char} (h : IsTelling name) (hup : name ≠ up) :
    fileName? (join dir name) = some name ∧
      ∃ parent, parent? (join dir name) = some parent ∧ components parent = components dir := by
  have hlast : lastSegment (join dir name) = name := by
    rw [lastSegment_join, lastSegment_of_not_mem h.oneSegment]
  have hname : fileName? (join dir name) = some name := by
    rw [fileName?_of_lastSegment (hlast.symm ▸ h.notIdle) (hlast.symm ▸ hup), hlast]
  obtain ⟨parent, hparent⟩ := exists_parent? hname
  refine ⟨hname, parent, hparent, ?_⟩
  rw [components_parent? hparent, components_join dir h hup, List.dropLast_concat]

end HostInventory.Path
