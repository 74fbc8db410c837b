import HostInventory.Proofs.Collection.Contract

/-!
# Which reports are kept

Every manager has one list in a collection, and a report replaces the one before it. So of several
providers of one manager only the last that succeeds is heard: what it reports is kept whatever the
others do (`report_kept_unless_replaced`), and what an earlier one reports is lost, without a
failure to tell of it (`report_lost_when_replaced`).
-/

namespace HostInventory

/-- Whether a respondent of a manager is available and succeeds. -/
def Respondent.reportsOn (m : Manager) (r : Respondent) : Prop :=
  r.available = true ∧ r.manager = m ∧ ∃ packages, r.answer = .ok packages

namespace RoundLaw

variable {κ : Type} {before after : List (κ × Respondent)} {r : κ × Respondent}
  {outcome : Option (Except InventoryError Extraction)} {j j' : Journal κ} {c : Collection}

/-- A report stays when nobody after it reports on the same manager. -/
theorem get_of_last {packages : List Package}
    (h : RoundLaw .legacy (before ++ r :: after) outcome j j' c) (ha : r.2.available = true)
    (hr : r.2.answer = .ok packages) (hlast : ∀ s ∈ after, ¬ s.2.reportsOn r.2.manager) :
    c.packages.get r.2.manager = packages := by
  have hcalled : (fun s : κ × Respondent => s.2.isCalled .legacy) r = true := by
    simp [Respondent.isCalled, ha]
  have hreport : (fun s : κ × Respondent => s.2.report? r.2.manager) r = some packages := by
    simp [Respondent.report?, hr, Except.toOption]
  have hafter : (after.filter (·.2.isCalled .legacy)).filterMap (·.2.report? r.2.manager) = [] := by
    rw [List.filterMap_eq_nil_iff]
    intro s hs
    obtain ⟨hmem, hs⟩ := List.mem_filter.mp hs
    unfold Respondent.report?
    split
    · rename_i hm
      cases hanswer : s.2.answer with
      | error e => rfl
      | ok ps =>
          have havailable : s.2.available = true := (Bool.and_eq_true_iff.mp hs).1
          exact absurd ⟨havailable, hm, ps, hanswer⟩ (hlast s hmem)
    · rfl
  rw [h.lists _ (.inr (by decide)), List.filter_append,
    List.filter_cons_of_pos (p := fun s : κ × Respondent => s.2.isCalled .legacy) hcalled,
    List.filterMap_append,
    List.filterMap_cons_some (f := fun s : κ × Respondent => s.2.report? r.2.manager) hreport,
    hafter, List.getLast?_append]
  rfl

end RoundLaw

namespace Collector

/-- In legacy mode every package that an available provider reports is kept, whatever providers of
other managers do and whatever happened before it, unless a later provider of the same manager
reports as well. The same holds of updates. -/
theorem report_kept_unless_replaced {κ : Type} {installed updates : List (κ × Respondent)}
    {outcome : Option (Except InventoryError Extraction)} {c : Collector (Recorded κ)}
    (h : ofParts (installed.map Respondent.provider) (updates.map Respondent.provider)
      (outcome.map Extractor.known) .legacy = .ok c) (j : Journal κ)
    {before after : List (κ × Respondent)} {r : κ × Respondent} {packages : List Package}
    (ha : r.2.available = true) (hr : r.2.answer = .ok packages)
    (hlast : ∀ s ∈ after, ¬ s.2.reportsOn r.2.manager) :
    (installed = before ++ r :: after →
        ∀ p ∈ packages, p ∈ (Recorded.run c.installedPackages j).1.packages.toList) ∧
      (updates = before ++ r :: after →
        ∀ p ∈ packages, p ∈ (Recorded.run c.packageUpdates j).1.packages.toList) := by
  have hkept : ∀ {outcome j' c'}, RoundLaw .legacy (before ++ r :: after) outcome j j' c' →
      ∀ p ∈ packages, p ∈ c'.packages.toList := by
    intro outcome j' c' hlaw p hp
    refine PackageLists.mem_toList.mpr ⟨r.2.manager, ?_⟩
    rw [hlaw.get_of_last ha hr hlast]
    exact hp
  constructor
  · rintro rfl
    exact hkept (roundLaw_installedPackages h j)
  · rintro rfl
    exact hkept (roundLaw_packageUpdates h j)

/-- The second of two providers of dpkg is heard, though one of rpm fails after it. -/
theorem report_kept_unless_replaced_last : ∃ c : Collector (Recorded Nat),
    ofParts ([(0, ⟨.deb, true, .ok [.ofFields "bash" "amd64" "5.2"]⟩),
        (1, ⟨.deb, true, .ok [.ofFields "tzdata" "all" "2024a"]⟩),
        (2, ⟨.rpm, true, .error (.parse "broken")⟩)].map Respondent.provider)
      ([].map Respondent.provider) ((none).map Extractor.known) .legacy = .ok c ∧
    (∀ s ∈ [((2 : Nat), (⟨.rpm, true, .error (.parse "broken")⟩ : Respondent))],
      ¬ s.2.reportsOn .deb) ∧
    ∀ j, .ofFields "tzdata" "all" "2024a" ∈
      (Recorded.run c.installedPackages j).1.packages.toList := by
  have hlast : ∀ s ∈ [((2 : Nat), (⟨.rpm, true, .error (.parse "broken")⟩ : Respondent))],
      ¬ s.2.reportsOn .deb := by
    intro s hs hreports
    obtain rfl := List.mem_singleton.mp hs
    cases hreports.2.1
  refine Exists.imp (fun c h => ⟨h, hlast, fun j => ?_⟩) ⟨_, rfl⟩
  exact (report_kept_unless_replaced h j
    (r := (1, ⟨.deb, true, .ok [.ofFields "tzdata" "all" "2024a"]⟩)) rfl rfl hlast).1
    (show _ = [_] ++ _ from rfl) _ (List.mem_singleton.mpr rfl)

/-- A report is not kept when another provider of its manager reports after it: the first of two
providers of dpkg is available and succeeds, but its package is in neither collection. -/
theorem report_lost_when_replaced : ∃ c : Collector (Recorded Nat),
    ofParts ([(0, ⟨.deb, true, .ok [.ofFields "bash" "amd64" "5.2"]⟩),
        (1, ⟨.deb, true, .ok [.ofFields "tzdata" "all" "2024a"]⟩)].map Respondent.provider)
      ([(2, ⟨.apt, true, .ok [.ofFields "bash" "amd64" "5.3"]⟩),
        (3, ⟨.apt, true, .ok []⟩)].map Respondent.provider)
      none .legacy = .ok c ∧
    .ofFields "bash" "amd64" "5.2" ∉
      (Recorded.run c.installedPackages ⟨⟨0⟩, []⟩).1.packages.toList ∧
    .ofFields "bash" "amd64" "5.3" ∉
      (Recorded.run c.packageUpdates ⟨⟨0⟩, []⟩).1.packages.toList ∧
    (Recorded.run c.installedPackages ⟨⟨0⟩, []⟩).1.failures = [] := by
  refine ⟨_, rfl, ?_, ?_, rfl⟩
  · show _ ∉ [Package.ofFields "tzdata" "all" "2024a"]
    rw [List.mem_singleton]
    intro h
    exact absurd (congrArg Package.name h) (by decide)
  · exact List.not_mem_nil

end Collector

end HostInventory
