import HostInventory.Path.Normalize
import HostInventory.Proofs.Path.LastSegment
import Mathlib.Data.List.Basic

/-!
# Cleaning goes by segments

`clean` puts components behind one another as texts, and goes back by looking for the parent of a
text. Seen from outside it reads the segments of the path onto a stack (`clean_eq`): whatever stands
in the path, the text that was put together so far is that of the segments on the stack, with no
other slash in it than one in front and those between two segments.

For that text the functions on paths are those on the stack. Joining puts a segment behind the last
one (`join_ofSegments`), the parent is the path without it (`parent?_ofSegments_concat`), and the
path of no segments has none (`parent?_ofSegments_nil`). All three need that each segment says
something: the parent passes over those that do not.
-/

namespace HostInventory.Path

/-! ## Segments -/

theorem not_mem_of_mem_segments {path segment : List Char} (h : segment ∈ segments path) :
    '/' ∉ segment := fun hm => by
  have := Text.splitFrom_all_not (List.forall_mem_nil _) segment h '/' hm
  cases this

/-- Whether a segment stands between two slashes and says something. -/
structure IsTelling (segment : List Char) : Prop where
  oneSegment : '/' ∉ segment
  notIdle : isIdle segment = false

namespace IsTelling

variable {segment : List Char}

theorem ne_nil (h : IsTelling segment) : segment ≠ [] := by
  rintro rfl
  cases h.notIdle

theorem ne_here (h : IsTelling segment) : segment ≠ here := by
  rintro rfl
  cases h.notIdle

theorem isAbsolute_eq (h : IsTelling segment) : isAbsolute segment = false :=
  isAbsolute_of_not_mem h.oneSegment

theorem up : IsTelling Path.up :=
  ⟨by decide, rfl⟩

end IsTelling

theorem segments_joinWith {stack : List (List Char)} (hne : stack ≠ [])
    (h : ∀ s ∈ stack, '/' ∉ s) : segments (Text.joinWith ['/'] stack) = stack := by
  induction stack with
  | nil => exact absurd rfl hne
  | cons s rest ih =>
      obtain ⟨hs, hrest⟩ := List.forall_mem_cons.mp h
      by_cases hnil : rest = []
      · rw [hnil]
        exact segments_of_not_mem hs
      · rw [Text.joinWith_cons hnil, List.append_assoc, List.singleton_append,
          segments_append_slash, segments_of_not_mem hs, ih hnil hrest]
        rfl

theorem joinWith_segments (path : List Char) : Text.joinWith ['/'] (segments path) = path :=
  Text.joinWith_splitFrom '/' path []

/-! ## Paths of segments -/

/-- The path of some segments, with a slash in front if it starts at the root. -/
def ofSegments (rooted : Bool) (stack : List (List Char)) : List Char :=
  (if rooted then ['/'] else []) ++ Text.joinWith ['/'] stack

section Stack

variable {rooted : Bool} {stack : List (List Char)} {segment : List Char}

theorem cutStart_ofSegments (h : ∀ s ∈ stack, IsTelling s) :
    cutStart (ofSegments rooted stack) =
      (if rooted then ['/'] else [], Text.joinWith ['/'] stack) := by
  cases rooted with
  | true => rfl
  | false =>
      show cutStart (Text.joinWith ['/'] stack) = ([], Text.joinWith ['/'] stack)
      by_cases hnil : stack = []
      · rw [hnil]
        rfl
      -- a start that is cut off would be, or end, a segment that says nothing
      · have hsegments := segments_joinWith hnil fun s hs => (h s hs).oneSegment
        unfold cutStart
        split
        · rename_i rest heq
          have hidle : [] ∈ stack := by
            rw [← hsegments, heq]
            exact List.mem_cons_self
          exact absurd rfl (h [] hidle).ne_nil
        · rename_i heq
          have hidle : here ∈ stack := by
            rw [← hsegments, heq]
            exact List.mem_cons_self
          exact absurd rfl (h here hidle).ne_here
        · rename_i rest heq
          have hidle : here ∈ stack := by
            rw [← hsegments, heq]
            exact (segments_append_slash ['.'] rest) ▸ List.mem_cons_self
          exact absurd rfl (h here hidle).ne_here
        · rfl

theorem isAbsolute_ofSegments (h : ∀ s ∈ stack, IsTelling s) :
    isAbsolute (ofSegments rooted stack) = rooted := by
  cases rooted with
  | true => rfl
  | false =>
      have hcut : cutStart (ofSegments false stack) = ([], Text.joinWith ['/'] stack) :=
        cutStart_ofSegments h
      cases hpath : ofSegments false stack with
      | nil => rfl
      | cons c rest =>
          refine beq_eq_false_iff_ne.mpr fun hc => ?_
          obtain rfl := Option.some.inj hc
          rw [hpath] at hcut
          cases (Prod.mk.inj hcut).1

theorem lastSegment_joinWith_concat (stack : List (List Char)) (h : '/' ∉ segment) :
    lastSegment (Text.joinWith ['/'] (stack ++ [segment])) = segment := by
  have hself := lastSegment_of_not_mem h
  by_cases hnil : stack = []
  · rw [hnil]
    exact hself
  · rw [Text.joinWith_concat hnil, List.append_assoc, List.singleton_append,
      lastSegment_append_slash, hself]

theorem skipIdle_joinWith (h : ∀ s ∈ stack, IsTelling s) :
    skipIdle (Text.joinWith ['/'] stack).reverse = (Text.joinWith ['/'] stack).reverse := by
  rcases List.eq_nil_or_concat stack with rfl | ⟨front, s, rfl⟩
  · rw [Text.joinWith, List.reverse_nil, skipIdle]
  · rw [List.concat_eq_append] at h ⊢
    have hs := h s (by simp)
    exact skipIdle_of_lastSegment (by rw [lastSegment_joinWith_concat _ hs.oneSegment, hs.notIdle])

theorem beforeLast_joinWith_concat (stack : List (List Char)) (h : '/' ∉ segment) :
    beforeLast (Text.joinWith ['/'] (stack ++ [segment])).reverse =
      (Text.joinWith ['/'] stack).reverse := by
  by_cases hnil : stack = []
  · rw [hnil]
    exact beforeLast_of_not_mem h
  · rw [Text.joinWith_concat hnil, List.append_assoc]
    exact beforeLast_append_slash _ h

theorem getLast?_ofSegments_concat (front : List (List Char)) (hne : segment ≠ []) :
    (ofSegments rooted (front ++ [segment])).getLast? = segment.getLast? := by
  rw [ofSegments]
  by_cases hnil : front = []
  · rw [hnil]
    exact List.getLast?_append_of_ne_nil _ hne
  · rw [Text.joinWith_concat hnil, ← List.append_assoc]
    exact List.getLast?_append_of_ne_nil _ hne

/-- Joining puts a segment behind the last one. -/
theorem join_ofSegments (h : ∀ s ∈ stack, IsTelling s) (hs : IsTelling segment) :
    join (ofSegments rooted stack) segment = ofSegments rooted (stack ++ [segment]) := by
  rw [join, hs.isAbsolute_eq]
  simp only [Bool.false_eq_true, if_false]
  rcases List.eq_nil_or_concat stack with rfl | ⟨front, s, rfl⟩
  · cases rooted <;> rfl
  · rw [List.concat_eq_append] at h ⊢
    have hend := h s (by simp)
    -- the path ends as the last segment does, so that it lacks the slash
    have hlast : (ofSegments rooted (front ++ [s])).getLast? = s.getLast? :=
      getLast?_ofSegments_concat front hend.ne_nil
    have hslash : (ofSegments rooted (front ++ [s])).getLast? ≠ some '/' := fun he =>
      hend.oneSegment (List.mem_of_mem_getLast? (hlast ▸ he))
    have hne : ofSegments rooted (front ++ [s]) ≠ [] := fun he => by
      rw [he] at hlast
      exact hend.ne_nil (List.getLast?_eq_none_iff.mp hlast.symm)
    rw [if_neg (by simp [hne, hslash]), ofSegments, ofSegments,
      Text.joinWith_concat (List.append_ne_nil_of_right_ne_nil front (List.cons_ne_nil s []))]
    simp

/-- The parent is the path without the last segment. -/
theorem parent?_ofSegments_concat (h : ∀ s ∈ stack, IsTelling s) (hs : IsTelling segment) :
    parent? (ofSegments rooted (stack ++ [segment])) = some (ofSegments rooted stack) := by
  have hall : ∀ s ∈ stack ++ [segment], IsTelling s := by
    simpa [or_imp, forall_and] using ⟨h, hs⟩
  rw [parent?, cutStart_ofSegments hall]
  dsimp only
  rw [skipIdle_joinWith hall]
  split
  · rename_i hnil
    have := lastSegment_joinWith_concat stack hs.oneSegment
    rw [List.reverse_eq_nil_iff.mp hnil] at this
    exact absurd this.symm hs.ne_nil
  · rw [beforeLast_joinWith_concat stack hs.oneSegment, skipIdle_joinWith h, List.reverse_reverse]
    rfl

theorem parent?_ofSegments_nil : parent? (ofSegments rooted []) = none := by
  have hskip : skipIdle [] = [] := by rw [skipIdle]
  cases rooted <;> simp [parent?, ofSegments, cutStart, Text.joinWith, hskip, here]

end Stack

/-! ## The stack -/

/-- A stack of segments, the last one at the end, with one more segment read. -/
def pushSegment (rooted : Bool) (stack : List (List Char)) (segment : List Char) :
    List (List Char) :=
  if isIdle segment then stack
  else if segment = up then
    if stack = [] ∧ rooted = false then [up] else stack.dropLast
  else stack ++ [segment]

section Stack

variable {rooted : Bool} {stack : List (List Char)} {segment : List Char}

theorem pushSegment_telling (h : ∀ s ∈ stack, IsTelling s) (hs : '/' ∉ segment) :
    ∀ s ∈ pushSegment rooted stack segment, IsTelling s := by
  unfold pushSegment
  split
  · exact h
  · rename_i hidle
    split
    · split
      · exact List.forall_mem_singleton.mpr .up
      · exact fun s hs => h s (List.dropLast_subset _ hs)
    · have hsegment : IsTelling segment := ⟨hs, Bool.eq_false_iff.mpr hidle⟩
      simpa [or_imp, forall_and] using ⟨h, hsegment⟩

theorem foldl_pushSegment_telling {ls : List (List Char)} (h : ∀ s ∈ stack, IsTelling s)
    (hls : ∀ s ∈ ls, '/' ∉ s) : ∀ s ∈ ls.foldl (pushSegment rooted) stack, IsTelling s := by
  induction ls generalizing stack with
  | nil => exact h
  | cons s rest ih =>
      obtain ⟨hs, hrest⟩ := List.forall_mem_cons.mp hls
      exact ih (pushSegment_telling h hs) hrest

theorem ofSegment?_of_isIdle (h : isIdle segment = true) :
    Component.ofSegment? segment = none := by
  rw [Component.ofSegment?, if_pos h]

theorem exists_ofSegment? (h : isIdle segment = false) :
    ∃ c, Component.ofSegment? segment = some c := by
  rw [Component.ofSegment?, h]
  split
  · contradiction
  · split <;> exact ⟨_, rfl⟩

/-- A segment that says something does to the text what it does to the stack. -/
theorem follow_ofSegments (h : ∀ s ∈ stack, IsTelling s) (hs : IsTelling segment) {c : Component}
    (hc : Component.ofSegment? segment = some c) :
    follow (ofSegments rooted stack) c = ofSegments rooted (pushSegment rooted stack segment) := by
  simp only [Component.ofSegment?, hs.notIdle, Bool.false_eq_true, if_false] at hc
  simp only [pushSegment, hs.notIdle, Bool.false_eq_true, if_false]
  by_cases hup : segment = up
  · subst hup
    obtain rfl : Component.up = c := by simpa using hc
    rw [follow, if_pos rfl]
    rcases List.eq_nil_or_concat stack with rfl | ⟨front, s, rfl⟩
    · rw [parent?_ofSegments_nil, isAbsolute_ofSegments h]
      cases rooted with
      | true => rfl
      | false =>
          have hjoin : join (ofSegments false []) up = ofSegments false ([] ++ [up]) :=
            join_ofSegments h .up
          exact hjoin
    · rw [List.concat_eq_append] at h ⊢
      rw [parent?_ofSegments_concat (fun s hs => h s (by simp [hs])) (h s (by simp))]
      simp
  · obtain rfl : Component.name segment = c := by simpa [hup] using hc
    rw [if_neg hup]
    exact join_ofSegments h hs

theorem foldl_follow_ofSegments {ls : List (List Char)} (h : ∀ s ∈ stack, IsTelling s)
    (hls : ∀ s ∈ ls, '/' ∉ s) :
    (ls.filterMap Component.ofSegment?).foldl follow (ofSegments rooted stack) =
      ofSegments rooted (ls.foldl (pushSegment rooted) stack) := by
  induction ls generalizing stack with
  | nil => rfl
  | cons s rest ih =>
      obtain ⟨hs, hrest⟩ := List.forall_mem_cons.mp hls
      have hstack : ∀ t ∈ pushSegment rooted stack s, IsTelling t := pushSegment_telling h hs
      have hnext := ih hstack hrest
      cases hidle : isIdle s with
      | true =>
          have hnone := ofSegment?_of_isIdle hidle
          have hstay : pushSegment rooted stack s = stack := by rw [pushSegment, hidle]; rfl
          rw [hstay] at hnext
          rw [List.filterMap_cons_none hnone, List.foldl_cons, hstay, hnext]
      | false =>
          obtain ⟨c, hc⟩ := exists_ofSegment? hidle
          rw [List.filterMap_cons_some hc, List.foldl_cons, List.foldl_cons,
            follow_ofSegments h ⟨hs, hidle⟩ hc, hnext]

end Stack

/-- Cleaning reads the segments of a path onto a stack. -/
theorem clean_eq (path : List Char) :
    clean path =
      ofSegments (isAbsolute path) ((segments path).foldl (pushSegment (isAbsolute path)) []) := by
  have hread : ∀ (rooted : Bool) (body : List Char),
      ((segments body).filterMap Component.ofSegment?).foldl follow (ofSegments rooted []) =
        ofSegments rooted ((segments body).foldl (pushSegment rooted) []) := fun _ _ =>
    foldl_follow_ofSegments (List.forall_mem_nil _) fun _ => not_mem_of_mem_segments
  have hcomponents : components path = (Component.ofStart? (cutStart path).1).toList ++
      (segments (cutStart path).2).filterMap Component.ofSegment? := rfl
  rw [clean, hcomponents, List.foldl_append]
  unfold cutStart
  split
  -- a start that is cut off, or ended by a slash, leaves the stack empty
  · exact hread true _
  · exact hread false []
  · rename_i rest
    have hsegments : segments ('.' :: '/' :: rest) = here :: segments rest :=
      segments_append_slash ['.'] rest
    rw [hsegments]
    exact hread false ('/' :: rest)
  · rename_i hroot _ _
    have habs : isAbsolute path = false := by
      cases path with
      | nil => rfl
      | cons c rest =>
          refine beq_eq_false_iff_ne.mpr fun hc => ?_
          obtain rfl := Option.some.inj hc
          exact hroot rest rfl
    rw [habs]
    exact hread false path

end HostInventory.Path
