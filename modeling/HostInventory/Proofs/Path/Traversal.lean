import HostInventory.Path.Normalize
import HostInventory.Proofs.Text.Cut

/-!
# What is left of leading traversal

A path begins with a separator or without one, and behind that with segments that lead up.
`sanitize` keeps the separator and drops those segments, each with the one separator behind it. What
follows it keeps as it is, and there the search ends: also at an empty segment, where two separators
stand next to each other.

So what comes first in the result is what comes first in the rest. When the rest begins with a
separator, a path that was relative becomes absolute, and a segment that leads up may come next. In
every other case the result starts with a separator just if the path does, and no leading traversal
survives (`sanitize_cuts`).
-/

namespace HostInventory.Path

def isRooted (path : List Char) : Bool :=
  path.head?.any isSeparator

/-- The first segment that is not empty. -/
def firstName? (path : List Char) : Option (List Char) :=
  (Text.splitAt isSeparator path).find? (!·.isEmpty)

/-- Segments that lead up, with one separator behind each. -/
inductive IsClimb : List Char → Prop
  | nil : IsClimb []
  | step {c : Char} {climb : List Char} (hc : isSeparator c = true) (h : IsClimb climb) :
      IsClimb ('.' :: '.' :: c :: climb)

/-- A path cut behind its leading traversal. -/
structure LeadCut (path root climb rest : List Char) : Prop where
  eq : path = root ++ climb ++ rest
  /-- The separator in front of the path, if there is one. -/
  root : root = (path.takeWhile isSeparator).take 1
  climb : IsClimb climb
  /-- No segment that leads up and has a separator behind it begins the rest. -/
  rest : ∀ c after, rest = '.' :: '.' :: c :: after → isSeparator c = false

/-! ## The cut -/

theorem exists_dropTraversal (path : List Char) :
    ∃ climb rest, path = climb ++ rest ∧ IsClimb climb ∧
      (∀ c after, rest = '.' :: '.' :: c :: after → isSeparator c = false) ∧
      dropTraversal path = if rest = up then [] else rest := by
  fun_induction dropTraversal path with
  | case1 => exact ⟨[], ['.', '.'], rfl, .nil, nofun, rfl⟩
  | case2 c rest hc ih =>
      obtain ⟨climb, rest, rfl, hclimb, hrest, hdrop⟩ := ih
      exact ⟨'.' :: '.' :: c :: climb, rest, rfl, .step hc hclimb, hrest, hdrop⟩
  | case3 c rest hc =>
      refine ⟨[], _, rfl, .nil, ?_, (if_neg ?_).symm⟩
      · rintro d after heq
        obtain ⟨rfl, -⟩ := List.cons.inj (List.cons.inj (List.cons.inj heq).2).2
        exact Bool.eq_false_iff.mpr hc
      · exact nofun
  | case4 path hends hmore =>
      refine ⟨[], path, rfl, .nil, fun c after heq => absurd heq (hmore c after), (if_neg ?_).symm⟩
      exact hends

theorem exists_leadCut (path : List Char) :
    ∃ root climb rest, LeadCut path root climb rest ∧
      sanitizeChars path = root ++ if rest = up then [] else rest := by
  cases path with
  | nil => exact ⟨[], [], [], ⟨rfl, rfl, .nil, nofun⟩, rfl⟩
  | cons c path =>
      cases hc : isSeparator c with
      | true =>
          obtain ⟨climb, rest, hpath, hclimb, hrest, hdrop⟩ := exists_dropTraversal path
          refine ⟨[c], climb, rest, ⟨by rw [hpath]; rfl, by simp [hc], hclimb, hrest⟩, ?_⟩
          rw [sanitizeChars, if_pos hc, hdrop]
          rfl
      | false =>
          obtain ⟨climb, rest, hpath, hclimb, hrest, hdrop⟩ := exists_dropTraversal (c :: path)
          refine ⟨[], climb, rest, ⟨hpath, by simp [hc], hclimb, hrest⟩, ?_⟩
          rw [sanitizeChars, if_neg (by simp [hc]), hdrop]
          rfl

/-! ## What comes first -/

theorem firstName?_cons {c : Char} (hc : isSeparator c = true) (path : List Char) :
    firstName? (c :: path) = firstName? path := by
  rw [firstName?, Text.splitAt, Text.splitFrom, if_pos hc]
  rfl

/-- A segment comes first that the path starts with, unless the path starts with a separator. -/
theorem eq_of_firstName? {path name : List Char} (h : firstName? path = some name)
    (hroot : isRooted path = false) :
    path = name ∨ ∃ c after, path = name ++ c :: after ∧ isSeparator c = true := by
  obtain ⟨first, rest, hsplit, hends⟩ :=
    Text.exists_splitFrom_eq_cons (p := isSeparator) path []
  rw [firstName?, Text.splitAt, hsplit, List.reverse_nil, List.nil_append] at h
  by_cases hfirst : first = []
  · subst hfirst
    rcases hends with ⟨rfl, rfl⟩ | ⟨c, after, rfl, hc, -⟩
    · cases h
    · rw [isRooted, List.nil_append, List.head?_cons, Option.any_some, hc] at hroot
      cases hroot
  · rw [List.find?_cons_of_pos (by simpa using hfirst)] at h
    obtain rfl := Option.some.inj h
    rcases hends with ⟨heq, -⟩ | ⟨c, after, heq, hc, -⟩
    · exact .inl heq
    · exact .inr ⟨c, after, heq, hc⟩

namespace LeadCut

variable {path root climb rest : List Char}

theorem root_eq (h : LeadCut path root climb rest) :
    root = [] ∧ isRooted path = false ∨ ∃ c, root = [c] ∧ isSeparator c = true ∧
      isRooted path = true := by
  have hroot := h.root
  cases path with
  | nil => exact .inl ⟨hroot, rfl⟩
  | cons c path =>
      cases hc : isSeparator c with
      | true => exact .inr ⟨c, by simpa [hc] using hroot, hc, hc⟩
      | false => exact .inl ⟨by simpa [hc] using hroot, hc⟩

theorem firstName?_ne_up (h : LeadCut path root climb rest) (hup : rest ≠ up)
    (hrest : isRooted rest = false) : firstName? rest ≠ some up := by
  intro hname
  rcases eq_of_firstName? hname hrest with heq | ⟨c, after, heq, hc⟩
  · exact hup heq
  · rw [h.rest c after heq] at hc
    cases hc

end LeadCut

/-- A path is cut behind its leading traversal, and the traversal is taken out, also at the end of
the path. The result starts with a separator just if the path does, unless the path starts without
one and the rest with one. A segment that leads up comes first in the result just if the rest starts
with a separator and such a segment comes first in it. -/
theorem sanitize_cuts (path : String) :
    ∃ root climb rest, LeadCut path.toList root climb rest ∧
      (sanitize path).toList = root ++ (if rest = up then [] else rest) ∧
      ((isRooted (sanitize path).toList = isRooted path.toList) ↔
        ¬ (root = [] ∧ isRooted rest = true)) ∧
      (firstName? (sanitize path).toList = some up ↔
        isRooted rest = true ∧ firstName? rest = some up) := by
  obtain ⟨root, climb, rest, hcut, hdrop⟩ := exists_leadCut path.toList
  have heq : (sanitize path).toList = root ++ (if rest = up then [] else rest) := by
    rw [sanitize, String.toList_ofList, hdrop]
  have hname : firstName? (sanitize path).toList = firstName? (if rest = up then [] else rest) := by
    rw [heq]
    rcases hcut.root_eq with ⟨rfl, -⟩ | ⟨c, rfl, hc, -⟩
    · rfl
    · exact firstName?_cons hc _
  refine ⟨root, climb, rest, hcut, heq, ?_, ?_⟩
  · rw [heq]
    rcases hcut.root_eq with ⟨rfl, hpath⟩ | ⟨c, rfl, hc, hpath⟩
    · rw [hpath, List.nil_append]
      by_cases hup : rest = up
      · rw [if_pos hup, hup]
        decide
      · rw [if_neg hup]
        simp
    · rw [hpath]
      simp [isRooted, hc]
  · rw [hname]
    by_cases hup : rest = up
    · rw [if_pos hup, hup]
      decide
    · rw [if_neg hup]
      cases hrest : isRooted rest with
      | true => simp
      | false => simpa using hcut.firstName?_ne_up hup hrest

/-- Behind an empty segment traversal survives, and a relative path has become absolute. -/
theorem traversal_left_behind_empty_segment :
    isRooted "..//../x".toList = false ∧ sanitize "..//../x" = "/../x" ∧
      isRooted (sanitize "..//../x").toList = true ∧
      firstName? (sanitize "..//../x").toList = some up := by
  decide

end HostInventory.Path
