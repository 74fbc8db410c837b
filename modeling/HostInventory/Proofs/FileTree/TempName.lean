import HostInventory.FileTree.Replacement
import HostInventory.Proofs.FileTree.Changes

/-!
# Names of temporary files

The name of a temporary file is its pattern with digits and an ending behind it. It stays one name
when the pattern is one, so the file is created directly in its directory, and it is longer than the
pattern, so the temporary file of a replacement is never its target (`temp_ne_target`).
-/

namespace HostInventory

namespace TempFile

theorem toList_name (pattern : String) (number : Nat) :
    (name pattern number).toList =
      pattern.toList ++ Decimal.padded 9 (number % 1000000000) ++ ending.toList := by
  simp [name]

theorem name_eq (pattern : String) (number : Nat) :
    name pattern number = String.ofList
      (pattern.toList ++ Decimal.padded 9 (number % 1000000000) ++ ending.toList) := by
  rw [← toList_name, String.ofList_toList]

theorem length_padded (number : Nat) :
    (Decimal.padded 9 (number % 1000000000)).length = 9 := by
  have hlt : number % 1000000000 < 1000000000 := Nat.mod_lt _ (by decide)
  have hlast : (Decimal.digits 999999999).length = 9 := by decide +kernel
  exact Decimal.length_padded (hlast ▸ Decimal.length_digits_mono (Nat.le_of_lt_succ hlt))

theorem not_mem_padded (width number : Nat) : '/' ∉ Decimal.padded width number := fun h => by
  cases Decimal.isDigit_of_mem_padded h

theorem not_mem_name {pattern : String} (h : '/' ∉ pattern.toList) (number : Nat) :
    '/' ∉ (name pattern number).toList := by
  rw [toList_name]
  simp only [List.mem_append, not_or]
  exact ⟨⟨h, not_mem_padded _ _⟩, by decide⟩

theorem length_name (pattern : String) (number : Nat) :
    pattern.toList.length + 4 ≤ (name pattern number).toList.length := by
  rw [toList_name, List.length_append, List.length_append]
  have : ending.toList.length = 4 := by decide
  omega

theorem name_ne_pattern (pattern : String) (number : Nat) : name pattern number ≠ pattern :=
  fun h => by
    have := length_name pattern number
    rw [h] at this
    omega

theorem lastSegment_pathIn (directory : String) {pattern : String} (h : '/' ∉ pattern.toList)
    (number : Nat) :
    Path.lastSegment (pathIn directory pattern number).toList = (name pattern number).toList := by
  rw [pathIn, String.toList_ofList, Path.lastSegment_join,
    Path.lastSegment_of_not_mem (not_mem_name h number)]

/-- A name that is drawn is taken where nothing has it. -/
theorem attempt_eq_ok {t t' : FileTree} {directory pattern : String} {mode number : Nat}
    {temp : TempFile} (h : attempt t directory pattern mode number = .ok (temp, t')) :
    temp.path = pathIn directory pattern number ∧ t.Changeable temp.path temp.place ∧
      t.get? temp.place = none ∧ t' = t.put temp.place (.file (t.newMode mode) []) := by
  unfold attempt at h
  obtain ⟨⟨place, tree⟩, hc, h⟩ := FileTree.ok_of_bind h
  obtain ⟨rfl, rfl⟩ := Prod.mk.inj (Except.ok.inj h)
  exact ⟨rfl, FileTree.createNew_eq_ok hc⟩

end TempFile

namespace Replacement

theorem not_mem_pattern (r : Replacement) : '/' ∉ r.pattern.toList := by
  rw [pattern, String.toList_ofList]
  cases h : Path.fileName? r.path.toList with
  | none => exact List.not_mem_nil
  | some name => exact Path.not_mem_fileName? h

/-- The names of temporary files begin with the name of the target. -/
theorem pattern_of_named? {r : Replacement} {t : FileTree} {directory : Place} {name : String}
    (h : t.named? r.path = some (directory ++ [name])) : r.pattern = name := by
  obtain ⟨hlast, hne, hdot, hup⟩ := FileTree.lastSegment_of_named? h
  have hidle : Path.isIdle (Path.lastSegment r.path.toList) = false := by
    rw [hlast, Path.isIdle, Bool.or_eq_false_iff, List.isEmpty_eq_false_iff]
    refine ⟨fun he => hne (String.toList_inj.mp he), ?_⟩
    exact beq_eq_false_iff_ne.mpr fun he => hdot (String.toList_inj.mp he)
  have hup' : Path.lastSegment r.path.toList ≠ Path.up := by
    rw [hlast]
    exact fun he => hup (String.toList_inj.mp he)
  rw [pattern, Path.fileName?_of_lastSegment hidle hup', hlast]
  exact String.ofList_toList

/-- The temporary file of a replacement is never its target. -/
theorem temp_ne_target {r : Replacement} {t : FileTree} {target place : Place} {number : Nat}
    (ht : t.named? r.path = some target)
    (hp : t.named? (TempFile.pathIn r.directory r.pattern number) = some place) :
    place ≠ target := by
  rintro rfl
  obtain ⟨directory, name, -, rfl⟩ := FileTree.named?_eq_some ht
  have hpattern := pattern_of_named? ht
  have hlast := (FileTree.lastSegment_of_named? hp).1
  rw [TempFile.lastSegment_pathIn _ r.not_mem_pattern] at hlast
  exact TempFile.name_ne_pattern r.pattern number ((String.toList_inj.mp hlast).trans hpattern.symm)

end Replacement

end HostInventory
