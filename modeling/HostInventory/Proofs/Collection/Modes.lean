import HostInventory.Proofs.Collection.Contract

/-!
# Verifying only looks on

One and the same respondents and extraction are collected from in all three modes. The extraction is
handed the collection that the respondents filled, so in principle it could reach back into it; the
main statement is that in the verifying mode it does not (`verify_only_compares`): the lists are
those of the legacy mode, the failures are those of the legacy mode followed by what the structured
mode notes of the extraction, and the comparison counts the two lists of dpkg as either of the other
modes has them.
-/

namespace HostInventory

/-- In the verifying mode the same respondents are called as in the legacy mode. -/
theorem Respondent.isCalled_verify (r : Respondent) : r.isCalled .verify = r.isCalled .legacy :=
  rfl

namespace RoundLaw

variable {κ : Type} {asked : List (κ × Respondent)}
  {outcome : Option (Except InventoryError Extraction)} {j₁ j₁' j₂ j₂' : Journal κ}
  {l v s : Collection}

theorem packages_verify (hl : RoundLaw .legacy asked outcome j₁ j₁' l)
    (hv : RoundLaw .verify asked outcome j₂ j₂' v) : v.packages = l.packages := by
  refine PackageLists.eq_of_get fun m => ?_
  rw [hl.lists m (.inr nofun), hv.lists m (.inr nofun)]
  simp only [Respondent.isCalled_verify]

theorem failures_verify (hl : RoundLaw .legacy asked outcome j₁ j₁' l)
    (hv : RoundLaw .verify asked outcome j₂ j₂' v) :
    v.failures = l.failures ++ (outcome.bind Extraction.failure?).toList := by
  rw [hl.failures, hv.failures]
  simp [Respondent.isCalled_verify, Extraction.made?]

theorem filter_extraction_structured (hs : RoundLaw .structured asked outcome j₁ j₁' s) :
    s.failures.filter (·.source == Collector.extractionSource) =
      (outcome.bind Extraction.failure?).toList := by
  rw [hs.filter_extraction]
  rfl

/-- A comparison counts the list that is kept and the list that was extracted. -/
theorem counts_verify {k : Comparison} (hv : RoundLaw .verify asked outcome j₁ j₁' v)
    (hs : RoundLaw .structured asked outcome j₂ j₂' s) (hk : v.comparison = some k) :
    k.legacyCount = (v.packages.get .deb).length ∧
      k.modernCount = (s.packages.get .deb).length := by
  rw [hv.comparison, if_pos rfl] at hk
  obtain ⟨packages, hpackages, rfl⟩ := Option.map_eq_some_iff.mp hk
  have hextracted : s.packages.get .deb = packages := by
    rw [hs.extracted rfl]
    exact congrArg (·.getD []) hpackages
  exact ⟨rfl, congrArg List.length hextracted.symm⟩

end RoundLaw

namespace Collector

def collected {κ : Type} (c : Collector (Recorded κ)) (j : Journal κ) : Collection :=
  (Recorded.run c.installedPackages j).1

/-- Verifying collects the packages of the legacy mode, and its failures too, followed by at most
one: the entry that the structured mode has for the same extraction. A comparison counts the list of
dpkg in the legacy mode and the one in the structured mode. -/
theorem verify_only_compares {κ : Type} {installed updates : List (κ × Respondent)}
    {outcome : Option (Except InventoryError Extraction)}
    {legacy verify structured : Collector (Recorded κ)}
    (hl : ofParts (installed.map Respondent.provider) (updates.map Respondent.provider)
      (outcome.map Extractor.known) .legacy = .ok legacy)
    (hv : ofParts (installed.map Respondent.provider) (updates.map Respondent.provider)
      (outcome.map Extractor.known) .verify = .ok verify)
    (hs : ofParts (installed.map Respondent.provider) (updates.map Respondent.provider)
      (outcome.map Extractor.known) .structured = .ok structured) (j₁ j₂ j₃ : Journal κ) :
    (verify.collected j₂).packages = (legacy.collected j₁).packages ∧
      (∃ lost : List CollectionFailure, lost.length ≤ 1 ∧
        (∀ f ∈ lost, f.source = extractionSource) ∧
        (verify.collected j₂).failures = (legacy.collected j₁).failures ++ lost ∧
        (structured.collected j₃).failures.filter (·.source == extractionSource) = lost) ∧
      ∀ k, (verify.collected j₂).comparison = some k →
        k.legacyCount = ((legacy.collected j₁).packages.get .deb).length ∧
          k.modernCount = ((structured.collected j₃).packages.get .deb).length := by
  have hlegacy := roundLaw_installedPackages hl j₁
  have hverify := roundLaw_installedPackages hv j₂
  have hstructured := roundLaw_installedPackages hs j₃
  have hpackages := hlegacy.packages_verify hverify
  have hlost := hstructured.filter_extraction_structured
  refine ⟨hpackages, ⟨(outcome.bind Extraction.failure?).toList, ?_, ?_,
    hlegacy.failures_verify hverify, hlost⟩, ?_⟩
  · cases outcome.bind Extraction.failure? <;> simp
  · intro f hf
    rw [← hlost] at hf
    exact beq_iff_eq.mp (List.mem_filter.mp hf).2
  · intro k hk
    obtain ⟨hkept, hextracted⟩ := hverify.counts_verify hstructured hk
    exact ⟨hkept.trans (by rw [hpackages]; rfl), hextracted⟩

/-- Three rounds with a provider of dpkg, one of rpm that fails and a partial extraction. -/
theorem verify_only_compares_partial : ∃ legacy verify structured : Collector (Recorded Nat),
    (ofParts ([(0, ⟨.deb, true, .ok [.ofFields "bash" "amd64" "5.2"]⟩),
        (1, ⟨.rpm, true, .error (.parse "broken")⟩)].map Respondent.provider)
      ([].map Respondent.provider) ((some (.ok ⟨[], 0, some "half"⟩)).map Extractor.known)
      .legacy = .ok legacy ∧
    ofParts ([(0, ⟨.deb, true, .ok [.ofFields "bash" "amd64" "5.2"]⟩),
        (1, ⟨.rpm, true, .error (.parse "broken")⟩)].map Respondent.provider)
      ([].map Respondent.provider) ((some (.ok ⟨[], 0, some "half"⟩)).map Extractor.known)
      .verify = .ok verify ∧
    ofParts ([(0, ⟨.deb, true, .ok [.ofFields "bash" "amd64" "5.2"]⟩),
        (1, ⟨.rpm, true, .error (.parse "broken")⟩)].map Respondent.provider)
      ([].map Respondent.provider) ((some (.ok ⟨[], 0, some "half"⟩)).map Extractor.known)
      .structured = .ok structured) ∧
    ∀ j, (verify.collected j).packages = (legacy.collected j).packages ∧
      (verify.collected j).failures = (legacy.collected j).failures ++
        [⟨extractionSource, "scan partially failed, failure reason: " ++ "half"⟩] ∧
      ∃ k, (verify.collected j).comparison = some k ∧
        k.legacyCount = ((legacy.collected j).packages.get .deb).length ∧
        k.modernCount = ((structured.collected j).packages.get .deb).length := by
  refine ⟨_, _, _, ⟨rfl, rfl, rfl⟩, fun j => ?_⟩
  obtain ⟨hpackages, ⟨lost, -, -, hfailures, hlost⟩, hcounts⟩ :=
    @verify_only_compares Nat [(0, ⟨.deb, true, .ok [.ofFields "bash" "amd64" "5.2"]⟩),
        (1, ⟨.rpm, true, .error (.parse "broken")⟩)] [] (some (.ok ⟨[], 0, some "half"⟩))
      _ _ _ rfl rfl rfl j j j
  refine ⟨hpackages, ?_, _, rfl, hcounts _ rfl⟩
  rw [hfailures, ← hlost]
  rfl

end Collector

end HostInventory
