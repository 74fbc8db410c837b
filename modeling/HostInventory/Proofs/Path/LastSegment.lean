import HostInventory.Path.Basic
import HostInventory.Proofs.Text.Cut
import Mathlib.Data.List.TakeWhile

/-!
# The last segment of a path

Several functions look at the end of a path in their own ways: `segments` cuts it everywhere,
`fileName?` works on the reversed text and skips segments that say nothing. They agree on the last
segment, what follows the last slash (`segments_eq_append`, `fileName?_of_lastSegment`).
-/

namespace HostInventory

namespace Path

theorem segments_append_slash (xs ys : List Char) :
    segments (xs ++ '/' :: ys) = segments xs ++ segments ys :=
  Text.splitFrom_append rfl ys xs []

theorem segments_of_not_mem {xs : List Char} (h : '/' ∉ xs) : segments xs = [xs] := by
  refine Text.splitFrom_of_all_not xs [] fun x hx => ?_
  exact beq_eq_false_iff_ne.mpr fun he => h (he ▸ hx)

theorem isIdle_iff {segment : List Char} :
    isIdle segment = true ↔ segment = [] ∨ segment = here := by
  simp [isIdle]

/-- What follows the last slash of a path. -/
def lastSegment (path : List Char) : List Char :=
  (path.reverse.takeWhile (· != '/')).reverse

theorem not_mem_takeWhile (xs : List Char) : '/' ∉ xs.takeWhile (· != '/') := fun h => by
  have := List.all_takeWhile (l := xs) (p := (· != '/'))
  have := List.all_eq_true.mp this '/' h
  cases this

theorem not_mem_lastSegment (path : List Char) : '/' ∉ lastSegment path := fun h =>
  not_mem_takeWhile path.reverse (List.mem_reverse.mp h)

theorem lastSegment_of_not_mem {xs : List Char} (h : '/' ∉ xs) : lastSegment xs = xs := by
  rw [lastSegment, List.takeWhile_eq_self_iff.mpr, List.reverse_reverse]
  intro x hx
  exact bne_iff_ne.mpr fun he => h (he ▸ List.mem_reverse.mp hx)

theorem lastSegment_append_slash (xs ys : List Char) :
    lastSegment (xs ++ '/' :: ys) = lastSegment ys := by
  have hrev : (xs ++ '/' :: ys).reverse = ys.reverse ++ '/' :: xs.reverse := by simp
  rw [lastSegment, hrev, List.takeWhile_append]
  split
  · rename_i hlen
    have heq : ys.reverse.takeWhile (· != '/') = ys.reverse :=
      (List.takeWhile_prefix _).eq_of_length hlen
    simp [lastSegment, heq]
  · rfl

/-- A path is its last segment, behind a slash or alone. -/
theorem eq_lastSegment_or (path : List Char) :
    path = lastSegment path ∨ ∃ front, path = front ++ '/' :: lastSegment path := by
  have hsplit : path.reverse.takeWhile (· != '/') ++ path.reverse.dropWhile (· != '/') =
      path.reverse := List.takeWhile_append_dropWhile
  cases hd : path.reverse.dropWhile (· != '/') with
  | nil =>
      rw [hd, List.append_nil] at hsplit
      exact Or.inl (by rw [lastSegment, hsplit, List.reverse_reverse])
  | cons c rest =>
      have hc : (c != '/') = false := by
        have hne : path.reverse.dropWhile (· != '/') ≠ [] := by simp [hd]
        have := List.head_dropWhile_not (· != '/') hne
        simpa [hd] using this
      obtain rfl : c = '/' := by simpa using hc
      refine Or.inr ⟨rest.reverse, ?_⟩
      rw [hd] at hsplit
      have := congrArg List.reverse hsplit
      rw [List.reverse_reverse] at this
      simpa [lastSegment] using this.symm

theorem beforeLast_of_not_mem {xs : List Char} (h : '/' ∉ xs) : beforeLast xs.reverse = [] := by
  rw [beforeLast, List.dropWhile_eq_nil_iff.mpr, List.drop_nil]
  intro x hx
  exact bne_iff_ne.mpr fun he => h (he ▸ List.mem_reverse.mp hx)

theorem beforeLast_append_slash (front : List Char) {last : List Char} (h : '/' ∉ last) :
    beforeLast (front ++ '/' :: last).reverse = front.reverse := by
  have hall : ∀ c ∈ last.reverse, (c != '/') = true := fun c hc =>
    bne_iff_ne.mpr fun he => h (he ▸ List.mem_reverse.mp hc)
  have hrev : (front ++ '/' :: last).reverse = last.reverse ++ '/' :: front.reverse := by simp
  rw [hrev, beforeLast, List.dropWhile_append_of_pos hall]
  rfl

/-- The last of the segments is the last segment. -/
theorem segments_eq_append (path : List Char) :
    ∃ front, segments path = front ++ [lastSegment path] := by
  have hlast := segments_of_not_mem (not_mem_lastSegment path)
  rcases eq_lastSegment_or path with h | ⟨front, h⟩
  · refine ⟨[], ?_⟩
    rw [h, lastSegment_of_not_mem (not_mem_lastSegment path)]
    exact hlast
  · refine ⟨segments front, ?_⟩
    conv => lhs; rw [h]
    rw [segments_append_slash, hlast]

/-! ## The name of the file -/

theorem lastSegment_cutStart {path : List Char} (h : lastSegment path ≠ here) :
    lastSegment (cutStart path).2 = lastSegment path := by
  unfold cutStart
  split
  · exact (lastSegment_append_slash [] _).symm
  · exact absurd rfl h
  · rename_i rest
    exact (lastSegment_append_slash [] rest).trans (lastSegment_append_slash ['.'] rest).symm
  · rfl

theorem skipIdle_of_lastSegment {path : List Char} (h : isIdle (lastSegment path) = false) :
    skipIdle path.reverse = path.reverse := by
  cases hr : path.reverse with
  | nil => rw [skipIdle]
  | cons c rest =>
      rw [lastSegment, hr] at h
      rw [skipIdle, h]
      rfl

/-- The last segment is the name of the file, unless it says nothing or leads up. -/
theorem fileName?_of_lastSegment {path : List Char} (h : isIdle (lastSegment path) = false)
    (hup : lastSegment path ≠ up) : fileName? path = some (lastSegment path) := by
  have hhere : lastSegment path ≠ here := by
    intro he
    rw [he] at h
    cases h
  have hcut := lastSegment_cutStart hhere
  have hskip := skipIdle_of_lastSegment (hcut ▸ h)
  unfold fileName?
  split
  · rename_i hnil
    rw [hskip, List.reverse_eq_nil_iff] at hnil
    rw [hnil] at hcut
    rw [← hcut] at h
    cases h
  · rw [hskip]
    show (if lastSegment (cutStart path).2 == up then none else
      some (lastSegment (cutStart path).2)) = _
    rw [hcut, if_neg (by simpa using hup)]

theorem not_mem_fileName? {path name : List Char} (h : fileName? path = some name) :
    '/' ∉ name := by
  unfold fileName? at h
  split at h
  · cases h
  · dsimp only at h
    split at h
    · cases h
    · obtain rfl := Option.some.inj h
      exact fun hm => not_mem_takeWhile _ (List.mem_reverse.mp hm)

/-! ## Joining -/

/-- A path that does not start at the root is left alone, or put behind the slash after the
directory. -/
theorem join_eq_or (dir : List Char) {path : List Char} (h : isAbsolute path = false) :
    dir = [] ∧ join dir path = path ∨
      dir ≠ [] ∧ ∃ front, join dir path = front ++ '/' :: path ∧
        (dir = front ∨ dir = front ++ ['/']) := by
  rw [join, h, if_neg Bool.false_ne_true]
  by_cases hnil : dir = []
  · rw [hnil]
    exact .inl ⟨rfl, rfl⟩
  · refine .inr ⟨hnil, ?_⟩
    split
    · rename_i hdir
      rcases Bool.or_eq_true _ _ ▸ hdir with hempty | hlast
      · exact absurd (List.isEmpty_iff.mp hempty) hnil
      · obtain ⟨front, hfront⟩ := List.getLast?_eq_some_iff.mp (beq_iff_eq.mp hlast)
        exact ⟨front, by rw [hfront, List.append_assoc]; rfl, .inr hfront⟩
    · exact ⟨dir, rfl, .inl rfl⟩

theorem join_of_isAbsolute (dir : List Char) {path : List Char} (h : isAbsolute path = true) :
    join dir path = path := by
  rw [join, h, if_pos rfl]

theorem join_append (dir : List Char) {path : List Char} (hne : path ≠ []) (more : List Char) :
    join dir (path ++ more) = join dir path ++ more := by
  have habs : isAbsolute (path ++ more) = isAbsolute path := by
    obtain ⟨c, rest, rfl⟩ := List.exists_cons_of_ne_nil hne
    rfl
  rw [join, join, habs]
  split_ifs <;> simp

/-- What stands behind a slash is joined as it is. -/
theorem exists_join_eq (dir above : List Char) :
    ∃ front, ∀ more, join dir (above ++ '/' :: more) = front ++ '/' :: more := by
  by_cases habove : above = []
  · rw [habove]
    exact ⟨[], fun more => rfl⟩
  · exact ⟨join dir above, fun more => join_append dir habove ('/' :: more)⟩

theorem isAbsolute_of_not_mem {path : List Char} (h : '/' ∉ path) : isAbsolute path = false :=
  beq_eq_false_iff_ne.mpr fun hhead => h (List.mem_of_mem_head? hhead)

theorem lastSegment_join (dir path : List Char) :
    lastSegment (join dir path) = lastSegment path := by
  cases habs : isAbsolute path with
  | true => rw [join_of_isAbsolute dir habs]
  | false =>
      rcases join_eq_or dir habs with ⟨-, hjoin⟩ | ⟨-, front, hjoin, -⟩
      · rw [hjoin]
      · rw [hjoin, lastSegment_append_slash]

end Path

end HostInventory
