import HostInventory.Proofs.Collection.Keys
import HostInventory.Proofs.Dpkg.Query
import HostInventory.Proofs.Dpkg.StatusDocument

/-!
# Both listings of a database agree

Whether the packages are asked from the query program or extracted from the document makes no
difference: either way they are those of the installed entries, each with the same fields. The
comparison goes by keys, so that the order in which the query program prints does not matter to it.
-/

namespace HostInventory.Dpkg

/-- For every database, whatever the order of the fields in the document and of the lines that the
query program prints: the extraction of the document is complete, and comparing it with what was
printed shows nothing extra on either side and equal counts. When lines and stanzas have the same
order, the packages themselves are equal. -/
theorem listings_agree (db : List Written) {output : List Entry}
    (h : output.Perm (db.map Written.entry)) (root : String) (osId : Option String) :
    let legacy := parseInstalled (Utf8.encode (String.ofList (queryOutput output)))
    ∃ extraction,
      Extraction.ofScan (StatusDatabase.summarize
        [(.dpkg root, .ok (StatusDatabase.findings (statusDocument db) osId))]) =
          .ok extraction ∧
      extraction.isComplete = true ∧
      (Comparison.ofLists legacy extraction.packages).legacyExtra = [] ∧
      (Comparison.ofLists legacy extraction.packages).modernExtra = [] ∧
      (Comparison.ofLists legacy extraction.packages).legacyCount =
        (Comparison.ofLists legacy extraction.packages).modernCount ∧
      (output = db.map Written.entry → legacy = extraction.packages) := by
  intro legacy
  have hlegacy : legacy = output.filterMap Entry.installed? := parseInstalled_queryOutput output
  obtain ⟨extraction, hscan, hcomplete, hpackages⟩ := ofScan_statusDocument root osId db
  have hperm : legacy.Perm extraction.packages := by
    rw [hlegacy, hpackages]
    exact h.filterMap Entry.installed?
  obtain ⟨hlegacyExtra, hmodernExtra, hcount⟩ := Comparison.ofLists_of_perm hperm
  refine ⟨extraction, hscan, hcomplete, hlegacyExtra, hmodernExtra, hcount, fun hsame => ?_⟩
  rw [hlegacy, hpackages, hsame]

/-- A library that was built from a source of another name and version. -/
def sampleLibrary : Entry where
  package := ⟨"libc6".toList, by decide, by decide⟩
  want := ⟨"install".toList, by decide, by decide⟩
  flag := ⟨"ok".toList, by decide, by decide⟩
  status := ⟨"installed".toList, by decide, by decide⟩
  architecture := ⟨"amd64".toList, by decide, by decide⟩
  version := ⟨"2.36-9+deb12u4".toList, by decide, by decide⟩
  source := some (⟨"glibc".toList, by decide, by decide⟩,
    some ⟨"2.36-9".toList, by decide, by decide⟩)
  others := []
  others_unread := nofun

/-- A package of which only the configuration is left, and whose description goes over two lines. -/
def sampleRemains : Entry where
  package := ⟨"zlib1g".toList, by decide, by decide⟩
  want := ⟨"deinstall".toList, by decide, by decide⟩
  flag := ⟨"ok".toList, by decide, by decide⟩
  status := ⟨"config-files".toList, by decide, by decide⟩
  architecture := ⟨"amd64".toList, by decide, by decide⟩
  version := ⟨"1:1.2.13".toList, by decide, by decide⟩
  source := none
  others := [{
    name := "Description".toList
    first := " compression library".toList
    more := [" Version: none".toList]
    isName := ⟨by decide, Text.isTrimmed_of_any_eq_false (by decide), by decide, by decide⟩
    oneLine := by decide
    continues := List.forall_mem_singleton.mpr ⟨by decide, by decide, by decide⟩ }]
  others_unread := by decide

theorem listings_agree_swapped :
    [sampleRemains, sampleLibrary].Perm [sampleLibrary, sampleRemains] ∧
      ∃ extraction,
        Extraction.ofScan (StatusDatabase.summarize [(.dpkg "/", .ok (StatusDatabase.findings
          (statusDocument [⟨sampleLibrary, sampleLibrary.fields.reverse, List.reverse_perm _⟩,
            ⟨sampleRemains, sampleRemains.fields, .refl _⟩]) none))]) = .ok extraction ∧
        (Comparison.ofLists
          (parseInstalled (Utf8.encode
            (String.ofList (queryOutput [sampleRemains, sampleLibrary]))))
          extraction.packages).modernExtra = [] := by
  have hswap : [sampleRemains, sampleLibrary].Perm [sampleLibrary, sampleRemains] := .swap _ _ _
  obtain ⟨extraction, hscan, -, -, hmodern, -⟩ := listings_agree
    [⟨sampleLibrary, sampleLibrary.fields.reverse, List.reverse_perm _⟩,
      ⟨sampleRemains, sampleRemains.fields, .refl _⟩] hswap "/" none
  exact ⟨hswap, extraction, hscan, hmodern⟩

end HostInventory.Dpkg
