import HostInventory.Proofs.Path.Cleaning

/-!
# What the normal form of a path is

Seen from an absolute directory a path resolves as text: its segments are read from left to right
behind those of the directory, leading up takes the last one back, and at the root it stays there.
The normal form is the root with the segments that are left (`normalize_resolves`), so nothing in it
can be resolved any further.

Seen from a relative directory a path may lead up more often than it came down, and each time that
it does should be kept. It is not: a segment that was kept for leading up is itself taken away by
the next one, so that they go out in pairs (`climbs_cancel_in_pairs`). What remains of them tells
only whether their number was odd; the segments behind them are those of the resolved path. The
normal form is right as long as a path leads up in vain at most once.
-/

namespace HostInventory.Path

/-! ## Segments seen from a directory -/

/-- The segments of a path behind those of the directory that it is seen from. -/
def segmentsFrom (cwd path : List Char) : List (List Char) :=
  if isAbsolute path then segments path else segments cwd ++ segments path

theorem isAbsolute_join (cwd path : List Char) :
    isAbsolute (join cwd path) = (isAbsolute path || isAbsolute cwd) := by
  unfold join
  cases habs : isAbsolute path with
  | true => exact habs
  | false =>
      rw [if_neg Bool.false_ne_true, Bool.false_or]
      cases cwd with
      | nil => exact habs
      | cons c rest => split <;> rfl

/-- What passes over idle segments does not see a slash too many behind a directory. -/
theorem foldl_segments_join {β : Type} {f : β → List Char → β}
    (hidle : ∀ b s, isIdle s = true → f b s = b) (cwd path : List Char) (b : β) :
    (segments (join cwd path)).foldl f b = (segmentsFrom cwd path).foldl f b := by
  have hempty : segments [] = [[]] := rfl
  unfold segmentsFrom
  cases habs : isAbsolute path with
  | true => rw [join_of_isAbsolute cwd habs, if_pos rfl]
  | false =>
      rw [if_neg Bool.false_ne_true, List.foldl_append]
      rcases join_eq_or cwd habs with ⟨rfl, hjoin⟩ | ⟨-, front, hjoin, rfl | rfl⟩
      · rw [hjoin, hempty, List.foldl_cons, hidle b [] rfl]
        rfl
      · rw [hjoin, segments_append_slash, List.foldl_append]
      · rw [hjoin, segments_append_slash, segments_append_slash, hempty, List.foldl_append,
          List.foldl_append, List.foldl_cons, hidle _ [] rfl]
        rfl

theorem pushSegment_of_isIdle {rooted : Bool} {segment : List Char} (h : isIdle segment = true)
    (stack : List (List Char)) : pushSegment rooted stack segment = stack := by
  rw [pushSegment, if_pos h]

theorem normalizeChars_slashes (cwd path : List Char) :
    normalizeChars .slashes cwd path =
      ofSegments (isAbsolute path || isAbsolute cwd) ((segmentsFrom cwd path).foldl
        (pushSegment (isAbsolute path || isAbsolute cwd)) []) := by
  rw [normalizeChars, clean_eq, isAbsolute_join,
    foldl_segments_join fun stack s hs => pushSegment_of_isIdle hs stack]

theorem not_mem_of_mem_segmentsFrom {cwd path segment : List Char}
    (h : segment ∈ segmentsFrom cwd path) : '/' ∉ segment := by
  unfold segmentsFrom at h
  split at h
  · exact not_mem_of_mem_segments h
  · exact (List.mem_append.mp h).elim not_mem_of_mem_segments not_mem_of_mem_segments

/-! ## Seen from an absolute directory -/

/-- Whether a segment leads to something below the directory before it. -/
structure IsOrdinary (segment : List Char) : Prop where
  ne_nil : segment ≠ []
  ne_here : segment ≠ here
  ne_up : segment ≠ up

/-- The segments passed through after one more segment was read. -/
def resolve (passed : List (List Char)) (segment : List Char) : List (List Char) :=
  if segment = [] ∨ segment = here then passed
  else if segment = up then passed.dropLast
  else passed ++ [segment]

/-- The segments that are left of some segments. -/
def resolved (ls : List (List Char)) : List (List Char) :=
  ls.foldl resolve []

/-- Whether a path starts at the root and has only ordinary segments behind it; the root itself
has none. -/
structure IsNormal (path : List Char) : Prop where
  isAbsolute : isAbsolute path = true
  ordinary : path = ['/'] ∨ ∀ s ∈ segments path.tail, IsOrdinary s

theorem pushSegment_true : pushSegment true = resolve := by
  funext stack segment
  simp only [pushSegment, resolve, isIdle_iff, Bool.true_eq_false, and_false, if_false]

theorem resolve_ordinary {passed : List (List Char)} {segment : List Char}
    (h : ∀ s ∈ passed, IsOrdinary s) : ∀ s ∈ resolve passed segment, IsOrdinary s := by
  unfold resolve
  split
  · exact h
  · rename_i hidle
    split
    · exact fun s hs => h s (List.dropLast_subset _ hs)
    · rename_i hup
      have hsegment : IsOrdinary segment := ⟨(not_or.mp hidle).1, (not_or.mp hidle).2, hup⟩
      simpa [or_imp, forall_and] using ⟨h, hsegment⟩

theorem resolved_ordinary (ls : List (List Char)) : ∀ s ∈ resolved ls, IsOrdinary s := by
  have hfold : ∀ passed : List (List Char), (∀ s ∈ passed, IsOrdinary s) →
      ∀ s ∈ ls.foldl resolve passed, IsOrdinary s := by
    induction ls with
    | nil => exact fun _ h => h
    | cons s rest ih => exact fun _ h => ih _ (resolve_ordinary h)
  exact hfold [] (List.forall_mem_nil _)

theorem foldl_resolve_of_ordinary {ls : List (List Char)} (h : ∀ s ∈ ls, IsOrdinary s)
    (passed : List (List Char)) : ls.foldl resolve passed = passed ++ ls := by
  induction ls generalizing passed with
  | nil => exact (List.append_nil _).symm
  | cons s rest ih =>
      obtain ⟨hs, hrest⟩ := List.forall_mem_cons.mp h
      have hpass : resolve passed s = passed ++ [s] := by
        simp [resolve, hs.ne_nil, hs.ne_here, hs.ne_up]
      rw [List.foldl_cons, hpass, ih hrest, List.append_assoc, List.singleton_append]

theorem isNormal_ofSegments {stack : List (List Char)} (h : ∀ s ∈ stack, IsTelling s)
    (ho : ∀ s ∈ stack, IsOrdinary s) : IsNormal (ofSegments true stack) := by
  refine ⟨rfl, ?_⟩
  by_cases hnil : stack = []
  · rw [hnil]
    exact .inl rfl
  · refine .inr ?_
    show ∀ s ∈ segments (Text.joinWith ['/'] stack), IsOrdinary s
    rw [segments_joinWith hnil fun s hs => (h s hs).oneSegment]
    exact ho

/-- A path that is in normal form stays as it is, wherever it is seen from. -/
theorem IsNormal.normalizeChars_eq {path : List Char} (h : IsNormal path) (cwd : List Char) :
    normalizeChars .slashes cwd path = path := by
  obtain ⟨body, rfl⟩ : ∃ body, path = '/' :: body := by
    cases path with
    | nil => cases h.isAbsolute
    | cons c body =>
        obtain rfl := Option.some.inj (beq_iff_eq.mp h.isAbsolute)
        exact ⟨body, rfl⟩
  have hsegments : segments ('/' :: body) = [] :: segments body := segments_append_slash [] body
  have hfrom : segmentsFrom cwd ('/' :: body) = [] :: segments body := hsegments
  rw [normalizeChars_slashes, hfrom]
  show ofSegments true ((segments body).foldl (pushSegment true) []) = _
  rw [pushSegment_true]
  rcases h.ordinary with hroot | hordinary
  · obtain rfl := (List.cons.inj hroot).2
    rfl
  · have hbody : ∀ s ∈ segments body, IsOrdinary s := hordinary
    rw [foldl_resolve_of_ordinary hbody, List.nil_append, ofSegments, joinWith_segments]
    rfl

/-- Seen from an absolute directory a path in the style with slashes has as its normal form the root
and the segments that are left after reading those of the directory and of the path from left to
right. It is in normal form, the directory does not matter to an absolute path, and normalizing it
once more, seen from anywhere, changes nothing. -/
theorem normalize_resolves (cwd path : String) (h : isAbsolute cwd.toList = true) :
    (normalize .slashes cwd path).toList =
        '/' :: Text.joinWith ['/'] (resolved (segmentsFrom cwd.toList path.toList)) ∧
      IsNormal (normalize .slashes cwd path).toList ∧
      (isAbsolute path.toList = true →
        ∀ other, normalize .slashes other path = normalize .slashes cwd path) ∧
      ∀ other, normalize .slashes other (normalize .slashes cwd path) =
        normalize .slashes cwd path := by
  have hstack : ∀ s ∈ (segmentsFrom cwd.toList path.toList).foldl (pushSegment true) [],
      IsTelling s :=
    foldl_pushSegment_telling (List.forall_mem_nil _) fun _ => not_mem_of_mem_segmentsFrom
  have heq : (normalize .slashes cwd path).toList =
      ofSegments true (resolved (segmentsFrom cwd.toList path.toList)) := by
    rw [normalize, String.toList_ofList, normalizeChars_slashes, h, Bool.or_true, pushSegment_true,
      resolved]
  rw [pushSegment_true] at hstack
  have hnormal : IsNormal (normalize .slashes cwd path).toList :=
    heq ▸ isNormal_ofSegments hstack (resolved_ordinary _)
  refine ⟨heq, hnormal, fun habs other => ?_, fun other => ?_⟩
  · simp only [normalize, normalizeChars_slashes, segmentsFrom, habs, Bool.true_or, if_true]
  · rw [normalize, hnormal.normalizeChars_eq, String.ofList_toList]

/-- A path that leads above the root, through the directory that it is seen from. -/
theorem normalize_resolves_above :
    isAbsolute "/home/agent/".toList = true ∧
      (normalize .slashes "/home/agent/" "./a/..//../b/../../../c/.").toList = "/c".toList ∧
      ∀ other, normalize .slashes other
          (normalize .slashes "/home/agent/" "./a/..//../b/../../../c/.") =
        normalize .slashes "/home/agent/" "./a/..//../b/../../../c/." := by
  obtain ⟨heq, -, -, hfixed⟩ :=
    normalize_resolves "/home/agent/" "./a/..//../b/../../../c/." (by decide)
  exact ⟨by decide, heq.trans (by decide), hfixed⟩

/-! ## Seen from a relative directory -/

/-- How often segments lead up with nothing left that could be taken back. -/
def climbs : List (List Char) → List (List Char) → Nat
  | _, [] => 0
  | passed, segment :: rest =>
    (if segment = up ∧ passed = [] then 1 else 0) + climbs (resolve passed segment) rest

/-- Of the segments kept for leading up none or one is there, as their number is even or odd. -/
theorem pushSegment_false (k : Nat) (passed : List (List Char)) (segment : List Char) :
    pushSegment false (List.replicate (k % 2) up ++ passed) segment =
      List.replicate ((k + if segment = up ∧ passed = [] then 1 else 0) % 2) up ++
        resolve passed segment := by
  unfold pushSegment resolve
  by_cases hidle : isIdle segment = true
  · have hup : segment ≠ up := by
      rintro rfl
      cases hidle
    simp [hidle, isIdle_iff.mp hidle, hup]
  · rw [if_neg hidle, if_neg (mt isIdle_iff.mpr hidle)]
    by_cases hup : segment = up
    · rw [if_pos hup, if_pos hup]
      by_cases hpassed : passed = []
      · rcases Nat.mod_two_eq_zero_or_one k with hk | hk <;>
          simp [hup, hpassed, hk, Nat.add_mod]
      · simp [hup, hpassed, List.dropLast_append_of_ne_nil]
    · simp [hup]

theorem foldl_pushSegment_false (ls : List (List Char)) (k : Nat) (passed : List (List Char)) :
    ls.foldl (pushSegment false) (List.replicate (k % 2) up ++ passed) =
      List.replicate ((k + climbs passed ls) % 2) up ++ ls.foldl resolve passed := by
  induction ls generalizing k passed with
  | nil => rfl
  | cons s rest ih =>
      rw [List.foldl_cons, pushSegment_false, ih, climbs, Nat.add_assoc]
      rfl

theorem joinWith_inj {stack stack' : List (List Char)} (h : ∀ s ∈ stack, IsTelling s)
    (h' : ∀ s ∈ stack', IsTelling s)
    (heq : Text.joinWith ['/'] stack = Text.joinWith ['/'] stack') : stack = stack' := by
  have hread : ∀ {l : List (List Char)}, (∀ s ∈ l, IsTelling s) →
      segments (Text.joinWith ['/'] l) = if l = [] then [[]] else l := by
    intro l hl
    split
    · rename_i hnil
      rw [hnil]
      rfl
    · rename_i hne
      exact segments_joinWith hne fun s hs => (hl s hs).oneSegment
  have hsegments := (hread h).symm.trans ((congrArg segments heq).trans (hread h'))
  -- an empty segment is on neither side
  split at hsegments <;> split at hsegments
  · rename_i hnil hnil'
    exact hnil.trans hnil'.symm
  · exact absurd rfl (h' [] (hsegments ▸ List.mem_cons_self)).ne_nil
  · exact absurd rfl (h [] (hsegments ▸ List.mem_cons_self)).ne_nil
  · exact hsegments

/-- Seen from a relative directory a relative path has as its normal form one segment that leads up,
or none, as the number of those that nothing took back is odd or even, and behind it the ordinary
segments that are left. That is the path itself, resolved, if that number is at most one, and
otherwise it is not. -/
theorem climbs_cancel_in_pairs (cwd path : String) (hcwd : isAbsolute cwd.toList = false)
    (hpath : isAbsolute path.toList = false) :
    let ls := segmentsFrom cwd.toList path.toList
    (normalize .slashes cwd path).toList =
        Text.joinWith ['/'] (List.replicate (climbs [] ls % 2) up ++ resolved ls) ∧
      (∀ s ∈ resolved ls, IsOrdinary s) ∧
      ((normalize .slashes cwd path).toList =
          Text.joinWith ['/'] (List.replicate (climbs [] ls) up ++ resolved ls) ↔
        climbs [] ls ≤ 1) := by
  intro ls
  have hfold : ls.foldl (pushSegment false) [] =
      List.replicate (climbs [] ls % 2) up ++ resolved ls := by
    have := foldl_pushSegment_false ls 0 []
    rwa [Nat.zero_add] at this
  have hstack : ∀ s ∈ List.replicate (climbs [] ls % 2) up ++ resolved ls, IsTelling s := by
    rw [← hfold]
    exact foldl_pushSegment_telling (List.forall_mem_nil _) fun _ => not_mem_of_mem_segmentsFrom
  have heq : (normalize .slashes cwd path).toList =
      Text.joinWith ['/'] (List.replicate (climbs [] ls % 2) up ++ resolved ls) := by
    rw [normalize, String.toList_ofList, normalizeChars_slashes, hcwd, hpath, ← hfold]
    rfl
  refine ⟨heq, resolved_ordinary ls, ?_⟩
  rw [heq]
  constructor
  · intro hjoin
    have hall : ∀ s ∈ List.replicate (climbs [] ls) up ++ resolved ls, IsTelling s := by
      intro s hs
      rcases List.mem_append.mp hs with hs | hs
      · exact (List.eq_of_mem_replicate hs) ▸ .up
      · exact hstack s (List.mem_append_right _ hs)
    have hlength := congrArg List.length (joinWith_inj hstack hall hjoin)
    simp only [List.length_append, List.length_replicate] at hlength
    omega
  · intro hle
    rw [Nat.mod_eq_of_lt (Nat.lt_succ_of_le hle)]

/-- Of three segments that lead up in vain one is left. -/
theorem climbs_cancel_in_pairs_three :
    isAbsolute "a/../..".toList = false ∧ isAbsolute "./../..//x/y/..".toList = false ∧
      climbs [] (segmentsFrom "a/../..".toList "./../..//x/y/..".toList) = 3 ∧
      (normalize .slashes "a/../.." "./../..//x/y/..").toList = "../x".toList := by
  obtain ⟨heq, -, -⟩ := climbs_cancel_in_pairs "a/../.." "./../..//x/y/.." (by decide) (by decide)
  exact ⟨by decide, by decide, by decide, heq.trans (by decide)⟩

/-- Two segments that lead up are both lost: the normal form is empty, and not the path itself. -/
theorem two_climbs_lost :
    climbs [] (segmentsFrom [] "../..".toList) = 2 ∧
      (normalize .slashes "" "../..").toList ≠
        Text.joinWith ['/'] (List.replicate 2 up ++ resolved (segmentsFrom [] "../..".toList)) ∧
      normalize .slashes "" "../.." = "" := by
  have heq : normalize .slashes "" "../.." = "" := by
    rw [normalize, normalizeChars_slashes]
    decide
  refine ⟨by decide, ?_, heq⟩
  rw [heq]
  decide

end HostInventory.Path
