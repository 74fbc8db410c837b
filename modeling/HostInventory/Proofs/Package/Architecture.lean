import HostInventory.Package.Basic
import HostInventory.Proofs.Text.Lowercase

/-!
# Canonical names of architectures

A canonical name is canonical itself, so that a package whose architecture is read back from an
inventory keeps its key; and two ways of writing a name that differ in blanks around it and in the
case of its letters of ASCII have the same canonical name (`canonical_stable`). Both follow from
what lower-casing leaves alone, and from the table of aliases, none of which stands for a name that
is an alias again.
-/

namespace HostInventory

namespace Architecture

open Text

/-- A written name in lower case and without the blanks around it. -/
def spelling (written : String) : String :=
  String.ofList (lowercase (trim written.toList))

theorem canonical_eq (written : String) :
    canonical written = (aliases.lookup (spelling written)).getD (spelling written) :=
  rfl

theorem spelling_spelling (written : String) : spelling (spelling written) = spelling written := by
  have htrim : trim (lowercase (trim written.toList)) = lowercase (trim written.toList) :=
    trim_of_isTrimmed (isTrimmed_lowercase (isTrimmed_trim _))
  rw [spelling, spelling, String.toList_ofList, htrim, lowercase_lowercase]

theorem canonical_of_mem_aliases : ∀ a ∈ aliases, canonical a.2 = a.2 := by
  decide

theorem canonical_canonical (written : String) :
    canonical (canonical written) = canonical written := by
  cases h : aliases.lookup (spelling written) with
  | some name =>
      obtain ⟨before, after, haliases, -⟩ := List.lookup_eq_some_iff.mp h
      have hmem : (spelling written, name) ∈ aliases := by
        rw [haliases]
        exact List.mem_append_right before List.mem_cons_self
      rw [canonical_eq written, h, Option.getD_some]
      exact canonical_of_mem_aliases (spelling written, name) hmem
  | none =>
      have hname : canonical written = spelling written := by rw [canonical_eq, h]; rfl
      rw [hname, canonical_eq, spelling_spelling, h]
      rfl

/-- Whether a name is another one with blanks around it and with some letters of ASCII in the other
case. -/
def Respells (s t : String) : Prop :=
  ∃ before body after, t.toList = before ++ body ++ after ∧
    isBlankText before = true ∧ isBlankText after = true ∧
    body.map Char.toLower = s.toList.map Char.toLower

theorem spelling_of_respells {s t : String} (h : Respells s t) : spelling t = spelling s := by
  obtain ⟨before, body, after, ht, hbefore, hafter, hbody⟩ := h
  have htrim : trim t.toList = trim body := by
    rw [ht, trim_append_blank hafter, trim_append hbefore]
  have hletters : (trim body).map Char.toLower = (trim s.toList).map Char.toLower := by
    rw [← trim_map_toLower, ← trim_map_toLower, hbody]
  rw [spelling, spelling, htrim, ← lowercase_map_toLower, hletters, lowercase_map_toLower]

/-- The canonical name of an architecture is its own canonical name, a package that is listed again
under the canonical name keeps its key, and the canonical name does not depend on blanks around the
written one or on the case of its letters of ASCII. -/
theorem canonical_stable (s : String) :
    canonical (canonical s) = canonical s ∧
      (∀ name version sourceName sourceVersion,
        let p := (Package.ofFields name s version).withSource sourceName sourceVersion
        (Package.ofFields p.name p.arch p.version).key = p.key) ∧
      ∀ t, Respells s t → canonical t = canonical s := by
  refine ⟨canonical_canonical s, ?_, ?_⟩
  · intro name version sourceName sourceVersion p
    simp only [Package.key, Package.ofFields, Package.withSource, p, canonical_canonical]
  · intro t h
    rw [canonical_eq, canonical_eq, spelling_of_respells h]

/-- A capital sigma at the end of a name is written in its final form whatever the case of the
letters before it. -/
theorem canonical_stable_sigma :
    Respells "ARMΣ" "\u2003armΣ\t" ∧ canonical "\u2003armΣ\t" = canonical "ARMΣ" ∧
      canonical "ARMΣ" = "armς" := by
  have h : Respells "ARMΣ" "\u2003armΣ\t" :=
    ⟨['\u2003'], ['a', 'r', 'm', 'Σ'], ['\t'], by decide, by decide, by decide, by decide⟩
  exact ⟨h, (canonical_stable "ARMΣ").2.2 _ h, by decide +kernel⟩

end Architecture

end HostInventory
