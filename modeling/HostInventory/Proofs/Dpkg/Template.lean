import Mathlib.Data.List.Sort
import Mathlib.Data.String.Basic
import HostInventory.Proofs.Dpkg.Query

/-!
# The template and the reader of its lines

The template is written for a program that knows nothing of JSON, and its lines are read by one that
knows nothing of the template. The two fit together for every list of rows whose values need no
escape (`parseInstalled_template`). The fields may be given in any order: sorting makes the same
template of all of them (`template_of_perm`).
-/

namespace HostInventory.Dpkg

/-! ## The order of the fields -/

theorem insertSorted_eq_orderedInsert (s : String) (texts : List String) :
    insertSorted s texts = texts.orderedInsert (· ≤ ·) s := by
  induction texts with
  | nil => rfl
  | cons t rest ih => rw [insertSorted, List.orderedInsert_cons, ih]

theorem sortTexts_eq_insertionSort (texts : List String) :
    sortTexts texts = texts.insertionSort (· ≤ ·) := by
  induction texts with
  | nil => rfl
  | cons s rest ih =>
      rw [List.insertionSort_cons, ← ih, ← insertSorted_eq_orderedInsert]
      rfl

theorem sortTexts_of_perm {texts texts' : List String} (h : texts.Perm texts') :
    sortTexts texts = sortTexts texts' := by
  rw [sortTexts_eq_insertionSort, sortTexts_eq_insertionSort]
  have hperm : (texts.insertionSort (· ≤ ·)).Perm (texts'.insertionSort (· ≤ ·)) :=
    (List.perm_insertionSort _ _).trans (h.trans (List.perm_insertionSort _ _).symm)
  exact hperm.eq_of_sortedLE List.sortedLE_insertionSort List.sortedLE_insertionSort

/-- The template does not depend on the order in which the fields are given. -/
theorem template_of_perm {given given' : List (String × String)} (h : given.Perm given') :
    template given = template given' := by
  rw [template, template, sortTexts_of_perm (h.map _)]

/-! ## Rows -/

/-- What the query program prints for rows, given a template. -/
def printedRows (rows : List Row) (template : String) : List Char :=
  rows.flatMap fun r => printed r.select none template.toList

theorem printedRows_template (rows : List Row) :
    printedRows rows (template fields) = (rows.map Row.line).flatMap (· ++ ['\n']) := by
  rw [List.flatMap_map]
  exact congrArg (rows.flatMap ·) (funext fun r => printed_template r.select)

theorem filterMap_installed? (rows : List Row) :
    rows.filterMap Row.installed? = (rows.filter (·.status = "installed")).map Row.toPackage := by
  rw [← List.filterMap_eq_map, List.filterMap_filter]
  simp only [decide_eq_true_eq]
  rfl

/-- In whichever order the fields are given, the template is the same, and what is printed for rows
of values without quotes, backslashes and control characters is read as one package for each row
whose status is `installed`, in order, with the values of the row and the canonical name of its
architecture; the other rows give nothing. -/
theorem parseInstalled_template {given : List (String × String)} (hg : given.Perm fields)
    {rows : List Row} (hr : ∀ r ∈ rows, r.IsPlain) :
    template given = template fields ∧
      parseInstalled (Utf8.encode (String.ofList (printedRows rows (template given)))) =
        (rows.filter (·.status = "installed")).map fun r => {
          name := r.package
          arch := Architecture.canonical r.architecture
          rawArch := r.architecture
          version := r.version
          source := ⟨r.sourceName, r.sourceVersion⟩ } := by
  have htemplate : template given = template fields := template_of_perm hg
  refine ⟨htemplate, ?_⟩
  rw [htemplate, printedRows_template, parseInstalled_lines hr, filterMap_installed?]
  refine List.map_congr_left fun r _ => ?_
  rw [Row.toPackage, Package.ofFields, Package.withSource]

/-- Two rows with braces, blanks and letters beyond ASCII in their values, asked for in reverse. -/
theorem parseInstalled_template_reversed :
    let kept : Row :=
      ⟨"größe \x7bx\x7d", " AMD64", "1.0 $\x7bVersion\x7d", "installed", "größe", ""⟩
    let left : Row := ⟨"old", "all", "2", "config-files", "old", "2"⟩
    (fields.reverse.Perm fields ∧ ∀ r ∈ [left, kept], r.IsPlain) ∧
      parseInstalled (Utf8.encode (String.ofList
          (printedRows [left, kept] (template fields.reverse)))) =
        [⟨"größe \x7bx\x7d", "x86_64", " AMD64", "1.0 $\x7bVersion\x7d", ⟨"größe", ""⟩⟩] := by
  intro kept left
  have hplain : ∀ r ∈ [left, kept], r.IsPlain := by
    simp only [Row.IsPlain, ← List.all_eq_true]
    decide +kernel
  obtain ⟨-, hparse⟩ := parseInstalled_template (List.reverse_perm fields) hplain
  refine ⟨⟨List.reverse_perm fields, hplain⟩, hparse.trans ?_⟩
  decide +kernel

end HostInventory.Dpkg
