import HostInventory.Proofs.Collection.Respondents

/-!
# What a collection consists of

The law of a round, in any mode and for any respondents (`RoundLaw`): who is called, what each list
is, which failures are noted, and what is compared. Whatever one respondent does reaches the
collection only through its own list and its own failure, and the extraction only through the list
of dpkg, one failure and the comparison; so the law is read off the fold over the respondents first
and then off the treatment of the packages of dpkg.

Both rounds of a collector obey it (`collects_by_law`); a round for updates as one without an
extraction.
-/

namespace HostInventory

/-! ## Extraction -/

namespace Extraction

/-- The packages of an extraction, unless it failed. -/
def packages? (outcome : Except InventoryError Extraction) : Option (List Package) :=
  outcome.toOption.map packages

/-- What is said of an extraction that failed, or did in part. -/
def loss? : Except InventoryError Extraction → Option String
  | .error e => some e.message
  | .ok extraction =>
    extraction.partialFailure.map ("scan partially failed, failure reason: " ++ ·)

/-- The failure that is noted of an extraction. -/
def failure? (outcome : Except InventoryError Extraction) : Option CollectionFailure :=
  (loss? outcome).map fun message => ⟨Collector.extractionSource, message⟩

def made? (mode : ExtractionMode) (outcome : Option (Except InventoryError Extraction)) :
    Option (Except InventoryError Extraction) :=
  if mode = .legacy then none else outcome

end Extraction

/-! ## The law -/

/-- What a round comes to that asks respondents in a mode. -/
structure RoundLaw {κ : Type} (mode : ExtractionMode) (asked : List (κ × Respondent))
    (outcome : Option (Except InventoryError Extraction)) (j j' : Journal κ) (c : Collection) :
    Prop where
  /-- Everyone available is called once, in order, and nobody else; then the extractor. -/
  calls : j' = j.with ((asked.filter (·.2.isCalled mode)).map (.respondent ·.1) ++
    (Extraction.made? mode outcome).toList.map fun _ => .extractor)
  /-- The list of a manager is the last report on it. -/
  lists : ∀ m, m ≠ .deb ∨ mode ≠ .structured → c.packages.get m =
    ((asked.filter (·.2.isCalled mode)).filterMap (·.2.report? m)).getLast?.getD []
  extracted : mode = .structured → c.packages.get .deb =
    ((Extraction.made? mode outcome).bind Extraction.packages?).getD []
  failures : c.failures = (asked.filter (·.2.isCalled mode)).filterMap (·.2.failure?) ++
    ((Extraction.made? mode outcome).bind Extraction.failure?).toList
  comparison : c.comparison =
    if mode = .verify then
      ((Extraction.made? mode outcome).bind Extraction.packages?).map
        (Comparison.ofLists (c.packages.get .deb))
    else none

namespace Collector

variable {κ : Type}

/-- A collector has the parts that it was made of, and an extractor if its mode needs one. -/
theorem ofParts_eq_ok {m : Type → Type} {installed updates : List (Provider m)}
    {extractor : Option (Extractor m)} {mode : ExtractionMode} {c : Collector m}
    (h : ofParts installed updates extractor mode = .ok c) :
    c.installed = installed ∧ c.updates = updates ∧
      ((mode = .legacy ∧ c.treatment = .legacy) ∨
        (∃ e, extractor = some e ∧ mode = .structured ∧ c.treatment = .structured e) ∨
        ∃ e, extractor = some e ∧ mode = .verify ∧ c.treatment = .verify e) := by
  unfold ofParts at h
  split at h
  · obtain rfl := Except.ok.inj h
    exact ⟨rfl, rfl, .inl ⟨rfl, rfl⟩⟩
  · rename_i e
    obtain rfl := Except.ok.inj h
    exact ⟨rfl, rfl, .inr (.inl ⟨e, rfl, rfl, rfl⟩)⟩
  · rename_i e
    obtain rfl := Except.ok.inj h
    exact ⟨rfl, rfl, .inr (.inr ⟨e, rfl, rfl, rfl⟩)⟩
  · cases h

/-! ## Rounds -/

def noting (c : Collection) (outcome : Except InventoryError Extraction) : Collection :=
  { c with failures := c.failures ++ (Extraction.failure? outcome).toList }

theorem run_extract (c : Collection) (outcome : Except InventoryError Extraction)
    (j : Journal κ) :
    Recorded.run (extract c (Extractor.known outcome)) j =
      ((noting c outcome, Extraction.packages? outcome), j.with [.extractor]) := by
  cases outcome with
  | error e => rfl
  | ok extraction =>
      obtain ⟨items, skipped, partialFailure⟩ := extraction
      cases partialFailure with
      | none =>
          obtain ⟨packages, failures, comparison, time⟩ := c
          simp only [noting, Extraction.failure?, Extraction.loss?, Option.map_none,
            Option.toList_none, List.append_nil]
          rfl
      | some reason => rfl

theorem run_treat_structured (c : Collection) (outcome : Except InventoryError Extraction)
    (j : Journal κ) :
    Recorded.run (treat c (.structured (Extractor.known outcome))) j =
      ((Extraction.packages? outcome).elim (noting c outcome)
        ((noting c outcome).withPackages .deb), j.with [.extractor]) := by
  simp only [treat, Recorded.run_bind, run_extract]
  cases Extraction.packages? outcome <;> rfl

theorem run_treat_verify (c : Collection) (outcome : Except InventoryError Extraction)
    (j : Journal κ) :
    Recorded.run (treat c (.verify (Extractor.known outcome))) j =
      ({ noting c outcome with
        comparison := ((Extraction.packages? outcome).map
          (Comparison.ofLists (c.packages.get .deb))).or c.comparison }, j.with [.extractor]) := by
  simp only [treat, Recorded.run_bind, run_extract]
  cases Extraction.packages? outcome <;> rfl

/-- The collection when everyone was called. -/
def gathered (mode : ExtractionMode) (asked : List (κ × Respondent)) (time : Timestamp) :
    Collection :=
  ((asked.filter (·.2.isCalled mode)).map (·.2)).foldl Collection.after (.start time)

theorem run_askAsked (mode : ExtractionMode) (asked : List (κ × Respondent)) (j : Journal κ) :
    Recorded.run (askAll (.start j.time) ((asked.map Respondent.provider).filter (isAsked mode)))
        j =
      (gathered mode asked j.time,
        j.with ((asked.filter (·.2.isCalled mode)).map (.respondent ·.1))) := by
  have hfilter : (asked.map Respondent.provider).filter (isAsked mode) =
      (asked.filter fun r => !(r.2.manager == .deb && mode == .structured)).map
        Respondent.provider := List.filter_map
  have hcalled : (fun r : κ × Respondent => r.2.isCalled mode) = fun r =>
      r.2.available && !(r.2.manager == .deb && mode == .structured) := rfl
  rw [hfilter, run_askAll, gathered, hcalled, List.filter_filter]

theorem run_installedPackages (c : Collector (Recorded κ)) (j : Journal κ) :
    Recorded.run c.installedPackages j =
      Recorded.run (do
        let found ← askAll (.start j.time) (c.installed.filter (isAsked c.mode))
        treat found c.treatment) j :=
  rfl

theorem run_packageUpdates (c : Collector (Recorded κ)) (j : Journal κ) :
    Recorded.run c.packageUpdates j = Recorded.run (askAll (.start j.time) c.updates) j :=
  rfl

/-! ## The law holds -/

variable {asked : List (κ × Respondent)} {mode : ExtractionMode} {t : Timestamp}

theorem get_gathered (m : Manager) : (gathered mode asked t).packages.get m =
    ((asked.filter (·.2.isCalled mode)).filterMap (·.2.report? m)).getLast?.getD [] := by
  rw [gathered, Collection.get_foldl_after, List.filterMap_map]
  cases m <;> rfl

theorem failures_gathered : (gathered mode asked t).failures =
    (asked.filter (·.2.isCalled mode)).filterMap (·.2.failure?) := by
  rw [gathered, Collection.failures_foldl_after, List.filterMap_map]
  rfl

theorem comparison_gathered : (gathered mode asked t).comparison = none :=
  Collection.comparison_foldl_after _ _

/-- Where nobody of dpkg is called, nobody reports on it. -/
theorem get_gathered_deb : (gathered .structured asked t).packages.get .deb = [] := by
  rw [get_gathered, List.filterMap_eq_nil_iff.mpr]
  · rfl
  · intro r hr
    have hcalled := (List.mem_filter.mp hr).2
    rw [Respondent.report?, if_neg]
    intro hdeb
    simp [Respondent.isCalled, hdeb] at hcalled

theorem roundLaw_legacy (outcome : Option (Except InventoryError Extraction)) (j : Journal κ) :
    RoundLaw .legacy asked outcome j
      (j.with ((asked.filter (·.2.isCalled .legacy)).map (.respondent ·.1)))
      (gathered .legacy asked t) where
  calls := by simp [Extraction.made?]
  lists := fun m _ => get_gathered m
  extracted := nofun
  failures := by simp [Extraction.made?, failures_gathered]
  comparison := comparison_gathered

theorem roundLaw_structured (outcome : Except InventoryError Extraction) (j : Journal κ) :
    RoundLaw .structured asked (some outcome) j
      ((j.with ((asked.filter (·.2.isCalled .structured)).map (.respondent ·.1))).with [.extractor])
      ((Extraction.packages? outcome).elim (noting (gathered .structured asked t) outcome)
        ((noting (gathered .structured asked t) outcome).withPackages .deb)) where
  calls := by simp [Journal.with, Extraction.made?]
  lists := fun m hm => by
    have hne : m ≠ .deb := hm.resolve_right fun h => h rfl
    cases Extraction.packages? outcome with
    | none => exact get_gathered m
    | some packages => exact (PackageLists.get_set_other _ packages hne).trans (get_gathered m)
  extracted := fun _ => by
    simp only [Extraction.made?, reduceCtorEq, if_false, Option.bind_some]
    cases Extraction.packages? outcome with
    | none => exact get_gathered_deb
    | some packages => exact PackageLists.get_set_same _ .deb packages
  failures := by
    rw [← failures_gathered (t := t)]
    cases Extraction.packages? outcome <;> rfl
  comparison := by
    have hgathered : (gathered .structured asked t).comparison = none := comparison_gathered
    rw [if_neg (by decide), ← hgathered]
    cases Extraction.packages? outcome <;> rfl

theorem roundLaw_verify (outcome : Except InventoryError Extraction) (j : Journal κ) :
    RoundLaw .verify asked (some outcome) j
      ((j.with ((asked.filter (·.2.isCalled .verify)).map (.respondent ·.1))).with [.extractor])
      { noting (gathered .verify asked t) outcome with
        comparison := ((Extraction.packages? outcome).map (Comparison.ofLists
          ((gathered .verify asked t).packages.get .deb))).or
            (gathered .verify asked t).comparison } where
  calls := by simp [Journal.with, Extraction.made?]
  lists := fun m _ => get_gathered m
  extracted := nofun
  failures := by
    rw [← failures_gathered (t := t)]
    rfl
  comparison := by
    rw [if_pos rfl, comparison_gathered, Option.or_none]
    rfl

variable {installed updates : List (κ × Respondent)}
  {outcome : Option (Except InventoryError Extraction)} {c : Collector (Recorded κ)}

theorem roundLaw_installedPackages
    (h : ofParts (installed.map Respondent.provider) (updates.map Respondent.provider)
      (outcome.map Extractor.known) mode = .ok c) (j : Journal κ) :
    RoundLaw mode installed outcome j (Recorded.run c.installedPackages j).2
      (Recorded.run c.installedPackages j).1 := by
  obtain ⟨hinstalled, -, hmode⟩ := ofParts_eq_ok h
  rw [run_installedPackages, hinstalled, Collector.mode, Recorded.run_bind]
  rcases hmode with ⟨rfl, ht⟩ | ⟨e, he, rfl, ht⟩ | ⟨e, he, rfl, ht⟩
  · rw [ht, Treatment.mode, run_askAsked]
    exact roundLaw_legacy outcome j
  · obtain ⟨o, rfl, rfl⟩ := Option.map_eq_some_iff.mp he
    rw [ht, Treatment.mode, run_askAsked, run_treat_structured]
    exact roundLaw_structured o j
  · obtain ⟨o, rfl, rfl⟩ := Option.map_eq_some_iff.mp he
    rw [ht, Treatment.mode, run_askAsked, run_treat_verify]
    exact roundLaw_verify o j

theorem roundLaw_packageUpdates
    (h : ofParts (installed.map Respondent.provider) (updates.map Respondent.provider)
      (outcome.map Extractor.known) mode = .ok c) (j : Journal κ) :
    RoundLaw .legacy updates none j (Recorded.run c.packageUpdates j).2
      (Recorded.run c.packageUpdates j).1 := by
  obtain ⟨-, hupdates, -⟩ := ofParts_eq_ok h
  have hcalled : (fun r : κ × Respondent => r.2.available) = fun r => r.2.isCalled .legacy := by
    funext r
    simp [Respondent.isCalled]
  rw [run_packageUpdates, hupdates, run_askAll, hcalled]
  exact roundLaw_legacy none j

end Collector

/-! ## The entry of the extraction -/

/-- An extraction is noted unless it is whole. -/
theorem Extraction.failure?_eq_none_iff (outcome : Except InventoryError Extraction) :
    failure? outcome = none ↔ ∃ x, outcome = .ok x ∧ x.partialFailure = none := by
  cases outcome with
  | error e => simp [failure?, loss?]
  | ok x => simp [failure?, loss?]

theorem Manager.name_ne_extractionSource (m : Manager) : m.name ≠ Collector.extractionSource := by
  cases m <;> decide

namespace RoundLaw

variable {κ : Type} {mode : ExtractionMode} {asked : List (κ × Respondent)}
  {outcome : Option (Except InventoryError Extraction)} {j j' : Journal κ} {c : Collection}

/-- No respondent fails under the name of the extraction. -/
theorem filter_extraction (h : RoundLaw mode asked outcome j j' c) :
    c.failures.filter (·.source == Collector.extractionSource) =
      ((Extraction.made? mode outcome).bind Extraction.failure?).toList := by
  have hrespondents : ((asked.filter (·.2.isCalled mode)).filterMap (·.2.failure?)).filter
      (·.source == Collector.extractionSource) = [] := by
    rw [List.filter_eq_nil_iff]
    intro f hf
    obtain ⟨r, -, hr⟩ := List.mem_filterMap.mp hf
    unfold Respondent.failure? at hr
    split at hr
    · cases hr
    · obtain rfl := Option.some.inj hr
      simp [Manager.name_ne_extractionSource]
  have hextraction : ∀ f ∈ ((Extraction.made? mode outcome).bind Extraction.failure?).toList,
      (f.source == Collector.extractionSource) = true := by
    intro f hf
    obtain ⟨o, -, ho⟩ := Option.bind_eq_some_iff.mp (Option.mem_toList.mp hf)
    obtain ⟨message, -, rfl⟩ := Option.map_eq_some_iff.mp ho
    exact beq_self_eq_true _
  rw [h.failures, List.filter_append, hrespondents, List.nil_append,
    List.filter_eq_self.mpr hextraction]

/-- The extraction is noted where it was made and was not whole. -/
theorem mem_extraction_iff (h : RoundLaw mode asked outcome j j' c) :
    (∃ f ∈ c.failures, f.source = Collector.extractionSource) ↔
      mode ≠ .legacy ∧ ∃ o, outcome = some o ∧ ∀ x, o = .ok x → x.partialFailure ≠ none := by
  have hfilter : (∃ f ∈ c.failures, f.source = Collector.extractionSource) ↔
      c.failures.filter (·.source == Collector.extractionSource) ≠ [] := by
    simp [List.filter_eq_nil_iff]
  rw [hfilter, h.filter_extraction]
  by_cases hm : mode = .legacy
  · simp [Extraction.made?, hm]
  · cases outcome with
    | none => simp [Extraction.made?, hm]
    | some o =>
        have hnone := Extraction.failure?_eq_none_iff o
        simp only [Extraction.made?, hm, if_false, Option.bind_some, ne_eq,
          Option.toList_eq_nil_iff, hnone, not_false_eq_true, true_and, Option.some.injEq,
          exists_eq_left']
        exact ⟨fun hnot x hx hp => hnot ⟨x, hx, hp⟩, fun hall ⟨x, hx, hp⟩ => hall x hx hp⟩

end RoundLaw

namespace Collector

/-- Both rounds of every collector obey the law: those for installed packages in the mode of the
collector, those for updates without any treatment of dpkg. The failures of a round for installed
packages name the extraction where it was made and either failed or lost a part. -/
theorem collects_by_law {κ : Type} {installed updates : List (κ × Respondent)}
    {outcome : Option (Except InventoryError Extraction)} {mode : ExtractionMode}
    {c : Collector (Recorded κ)}
    (h : ofParts (installed.map Respondent.provider) (updates.map Respondent.provider)
      (outcome.map Extractor.known) mode = .ok c) (j : Journal κ) :
    RoundLaw mode installed outcome j (Recorded.run c.installedPackages j).2
        (Recorded.run c.installedPackages j).1 ∧
      ((∃ f ∈ (Recorded.run c.installedPackages j).1.failures, f.source = extractionSource) ↔
        mode ≠ .legacy ∧ ∃ o, outcome = some o ∧ ∀ x, o = .ok x → x.partialFailure ≠ none) ∧
      RoundLaw .legacy updates none j (Recorded.run c.packageUpdates j).2
        (Recorded.run c.packageUpdates j).1 :=
  have hlaw := roundLaw_installedPackages h j
  ⟨hlaw, hlaw.mem_extraction_iff, roundLaw_packageUpdates h j⟩

/-- A verifying collector with two providers of dpkg, one that is not available and one that fails;
its extraction is partial. -/
theorem collects_by_law_verifying : ∃ c : Collector (Recorded Nat),
    ofParts ([(0, ⟨.deb, true, .ok [.ofFields "bash" "amd64" "5.1"]⟩),
        (1, ⟨.rpm, false, .ok [.ofFields "foo" "noarch" "1"]⟩),
        (2, ⟨.rpm, true, .error (.parse "broken")⟩),
        (3, ⟨.deb, true, .ok [.ofFields "bash" "amd64" "5.2"]⟩)].map Respondent.provider)
      ([(4, ⟨.yum, true, .ok [.ofFields "foo" "noarch" "2"]⟩)].map Respondent.provider)
      ((some (.ok ⟨[], 0, some "half"⟩)).map Extractor.known) .verify = .ok c ∧
    ∀ time, (Recorded.run c.installedPackages ⟨time, []⟩).2.calls =
        [.respondent 0, .respondent 2, .respondent 3, .extractor] ∧
      (Recorded.run c.installedPackages ⟨time, []⟩).1.packages.deb =
        [.ofFields "bash" "amd64" "5.2"] ∧
      (Recorded.run c.installedPackages ⟨time, []⟩).1.failures =
        [⟨"rpm", (QueryError.parse "broken").message⟩,
          ⟨"extractor", "scan partially failed, failure reason: " ++ "half"⟩] ∧
      (Recorded.run c.installedPackages ⟨time, []⟩).1.comparison =
        some (.ofLists [.ofFields "bash" "amd64" "5.2"] []) ∧
      (Recorded.run c.packageUpdates ⟨time, []⟩).1.packages.yum =
        [.ofFields "foo" "noarch" "2"] := by
  refine Exists.imp (fun c h => ⟨h, fun time => ?_⟩) ⟨_, rfl⟩
  obtain ⟨hinstalled, -, hupdates⟩ := collects_by_law h ⟨time, []⟩
  have hdeb := hinstalled.lists .deb (.inr nofun)
  refine ⟨congrArg Journal.calls hinstalled.calls, hdeb, hinstalled.failures, ?_,
    hupdates.lists .yum (.inl nofun)⟩
  rw [hinstalled.comparison, hdeb]
  rfl

end Collector

end HostInventory
