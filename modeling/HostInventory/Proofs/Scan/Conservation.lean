import HostInventory.Proofs.Extraction.Mapping
import HostInventory.Proofs.Log.Session
import HostInventory.Scan.Status

/-!
# What a scan finds

From the stanzas below some roots to inventory items nothing is lost, repeated or invented. A
stanza stands for a package if its status says installed and it has a name and a version
(`Stanza.IsListed`); a root stands for the packages of its stanzas in their order (`packagesAt`),
and a scan for those of its roots in theirs (`ScanLaw.packages`).

How far the scan got follows from the roots alone. It looks at two things, problems and roots that
were not read, and a root that was read has a problem just if one of its stanzas is installed but
incomplete (`problem?_eq_none_iff`); so a scan that read something is never a failed one, however
much of it was malformed, and neither is a scan of no roots.
-/

namespace HostInventory

/-- Reads files that do not change. -/
def FileReader.known (files : String → Except SystemError String) : FileReader Session where
  readText path := pure (files path)
  has path := pure (files path).isOk

/-! ## Stanzas -/

namespace Stanza

/-- Whether the status is of three words of which the last is `installed`. -/
def IsInstalled (s : Stanza) : Prop :=
  ∃ status want flag, s.get? "Status".toList = some status ∧
    Text.words status = [want, flag, "installed".toList]

def IsComplete (s : Stanza) : Prop :=
  (s.get? "Package".toList).isSome ∧ (s.get? "Version".toList).isSome

/-- Whether a stanza stands for an installed package. -/
def IsListed (s : Stanza) : Prop :=
  s.IsInstalled ∧ s.IsComplete

theorem isInstalled_iff (s : Stanza) : s.IsInstalled ↔
    ((s.get? "Status".toList).map StatusDatabase.isInstalled).getD false = true := by
  rw [IsInstalled]
  cases s.get? "Status".toList with
  | none => simp
  | some status =>
      simp only [Option.some.injEq, Option.map_some, Option.getD_some, StatusDatabase.isInstalled]
      constructor
      · rintro ⟨_, want, flag, rfl, hwords⟩
        rw [hwords]
        exact beq_self_eq_true _
      · intro h
        split at h
        · rename_i want flag word hwords
          rw [beq_iff_eq.mp h] at hwords
          exact ⟨status, want, flag, rfl, hwords⟩
        · cases h

instance : DecidablePred IsInstalled := fun s =>
  decidable_of_iff _ s.isInstalled_iff.symm

instance : DecidablePred IsComplete := fun _ =>
  inferInstanceAs (Decidable (_ ∧ _))

instance : DecidablePred IsListed := fun _ =>
  inferInstanceAs (Decidable (_ ∧ _))

end Stanza

namespace StatusDatabase

def packageOf (osId : Option String) (s : Stanza) : ScannedPackage :=
  let name := (s.get? "Package".toList).getD []
  let version := (s.get? "Version".toList).getD []
  { name := String.ofList name
    version := String.ofList version
    details := .dpkg {
      arch := String.ofList ((s.get? "Architecture".toList).getD [])
      sourceName := String.ofList (sourceOf s name version).1
      sourceVersion := String.ofList (sourceOf s name version).2
      osId := osId } }

variable {osId : Option String} {s : Stanza}

theorem readStanza_of_not_isInstalled (h : ¬ s.IsInstalled) : readStanza osId s = .absent := by
  rw [s.isInstalled_iff, Bool.not_eq_true] at h
  rw [readStanza, h]
  rfl

theorem readStanza_of_isListed (h : s.IsListed) :
    readStanza osId s = .package (packageOf osId s) := by
  obtain ⟨hinstalled, hname, hversion⟩ := h
  obtain ⟨name, hname⟩ := Option.isSome_iff_exists.mp hname
  obtain ⟨version, hversion⟩ := Option.isSome_iff_exists.mp hversion
  rw [readStanza, s.isInstalled_iff.mp hinstalled, hname, hversion, packageOf, hname, hversion]
  rfl

theorem readStanza_of_not_isComplete (h : s.IsInstalled) (hc : ¬ s.IsComplete) :
    readStanza osId s = .malformed := by
  rw [readStanza, s.isInstalled_iff.mp h]
  split
  · contradiction
  · split
    · rename_i name version hname hversion
      exact absurd ⟨Option.isSome_of_eq_some hname, Option.isSome_of_eq_some hversion⟩ hc
    · rfl

theorem package?_readStanza (osId : Option String) (s : Stanza) :
    (readStanza osId s).package? = if s.IsListed then some (packageOf osId s) else none := by
  by_cases hlisted : s.IsListed
  · rw [if_pos hlisted, readStanza_of_isListed hlisted]
    rfl
  · rw [if_neg hlisted]
    by_cases hinstalled : s.IsInstalled
    · rw [readStanza_of_not_isComplete hinstalled fun hc => hlisted ⟨hinstalled, hc⟩]
      rfl
    · rw [readStanza_of_not_isInstalled hinstalled]
      rfl

theorem readStanza_ne_malformed_iff (osId : Option String) (s : Stanza) :
    readStanza osId s ≠ .malformed ↔ (s.IsInstalled → s.IsComplete) := by
  by_cases hinstalled : s.IsInstalled
  · by_cases hc : s.IsComplete
    · simp [readStanza_of_isListed ⟨hinstalled, hc⟩, hc]
    · simp [readStanza_of_not_isComplete hinstalled hc, hinstalled, hc]
  · simp [readStanza_of_not_isInstalled hinstalled, hinstalled]

theorem packages_findings (text : List Char) (osId : Option String) :
    (findings text osId).packages =
      ((Stanza.ofText text).filter (·.IsListed)).map (packageOf osId) := by
  have hpackage : Entry.package? ∘ readStanza osId =
      fun s : Stanza => if s.IsListed then some (packageOf osId s) else none :=
    funext (package?_readStanza osId)
  simp only [findings, List.filterMap_map, hpackage]
  rw [← List.filterMap_eq_map, List.filterMap_filter]
  simp only [decide_eq_true_eq, Function.comp_apply]

theorem malformed_findings_eq_zero_iff (text : List Char) (osId : Option String) :
    (findings text osId).malformed = 0 ↔
      ∀ s ∈ Stanza.ofText text, s.IsInstalled → s.IsComplete := by
  simp only [findings, List.count_eq_zero, List.mem_map, not_exists, not_and,
    ← readStanza_ne_malformed_iff osId, ne_eq]

/-! ## Roots -/

section Roots

variable (files : String → Except SystemError String) (root : String)

/-- Whether the database below a root can be read. -/
def IsReadable : Prop :=
  (files (statusPath root)).isOk

def stanzasAt : List Stanza :=
  match files (statusPath root) with
  | .ok text => Stanza.ofText text.toList
  | .error _ => []

/-- The identity of the distribution below a root. -/
def osIdAt : Option String :=
  match files (releasePath root) with
  | .ok text => osId? text.toList
  | .error _ => none

/-- The packages below a root, one for each stanza that stands for one. -/
def packagesAt : List ScannedPackage :=
  ((stanzasAt files root).filter (·.IsListed)).map (packageOf (osIdAt files root))

/-- Whether a root is read and no stanza of an installed package lacks its name or version. -/
def IsWhole : Prop :=
  IsReadable files root ∧ ∀ s ∈ stanzasAt files root, s.IsInstalled → s.IsComplete

def outcomeAt : Except String Findings :=
  match files (statusPath root) with
  | .error cause => .error (unreadableReason (statusPath root) cause)
  | .ok text => .ok (findings text.toList (osIdAt files root))

theorem isOk_outcomeAt : (outcomeAt files root).isOk ↔ IsReadable files root := by
  rw [outcomeAt, IsReadable]
  cases files (statusPath root) <;> exact Iff.rfl

theorem packages_outcomeAt :
    (match outcomeAt files root with
      | .ok found => found.packages
      | .error _ => []) = packagesAt files root := by
  rw [outcomeAt, packagesAt, stanzasAt]
  cases files (statusPath root) with
  | error cause => rfl
  | ok text => exact packages_findings text.toList (osIdAt files root)

theorem problem?_eq_none_iff (source : ScanSource) :
    problem? source (outcomeAt files root) = none ↔ IsWhole files root := by
  rw [outcomeAt, IsWhole, IsReadable, stanzasAt]
  cases files (statusPath root) with
  | error cause => exact ⟨nofun, fun h => nomatch h.1⟩
  | ok text =>
      have hmalformed := malformed_findings_eq_zero_iff text.toList (osIdAt files root)
      by_cases h : (findings text.toList (osIdAt files root)).malformed = 0
      · rw [problem?, if_pos h]
        exact ⟨fun _ => ⟨rfl, hmalformed.mp h⟩, fun _ => rfl⟩
      · rw [problem?, if_neg h]
        exact ⟨nofun, fun hwhole => absurd (hmalformed.mpr hwhole.2) h⟩

theorem gives_readOsId : (readOsId (.known files) root).Gives (osIdAt files root) := by
  refine (Session.gives_pure (files (releasePath root))).bind ?_
  rw [osIdAt]
  cases files (releasePath root) with
  | ok text => exact Session.gives_pure _
  | error cause =>
      by_cases h : cause.kind = .notFound
      · simp only [if_pos h]
        exact Session.gives_pure none
      · simp only [if_neg h]
        exact (Session.gives_report _).bind (Session.gives_pure none)

theorem gives_scanRoot : (scanRoot (.known files) root).Gives (outcomeAt files root) := by
  refine (Session.gives_pure (files (statusPath root))).bind ?_
  rw [outcomeAt]
  cases files (statusPath root) with
  | error cause => exact Session.gives_pure _
  | ok text => exact (gives_readOsId files root).bind (Session.gives_pure _)

end Roots

variable (files : String → Except SystemError String)

def outcomesOf (roots : List String) : List (ScanSource × Except String Findings) :=
  roots.map fun root => (.dpkg root, outcomeAt files root)

theorem gives_scanEach (roots : List String) :
    (scanEach (.known files) (roots.map .dpkg)).Gives (outcomesOf files roots) := by
  induction roots with
  | nil => exact Session.gives_pure []
  | cons root rest ih =>
      refine (gives_scanRoot files root).bind ?_
      rw [outcomesOf, List.map_cons]
      cases outcomeAt files root with
      | ok found => exact ih.bind (Session.gives_pure _)
      | error reason => exact (Session.gives_report _).bind (ih.bind (Session.gives_pure _))

/-! ## Scans -/

def resultOf (roots : List String) : ScanResult :=
  summarize (outcomesOf files roots)

theorem gives_scan (roots : List String) :
    ((scanner (.known files)).scan (roots.map .dpkg)).Gives (resultOf files roots) :=
  (gives_scanEach files roots).bind (Session.gives_pure _)

theorem packages_resultOf (roots : List String) :
    (resultOf files roots).packages = roots.flatMap (packagesAt files) := by
  rw [resultOf, summarize, outcomesOf, List.flatMap_map]
  exact List.flatMap_congr fun root _ => packages_outcomeAt files root

/-- The status by what the roots are: all of them whole, none of them read, or anything else. -/
theorem status_resultOf (roots : List String) :
    (∀ root ∈ roots, IsWhole files root) ∧ (resultOf files roots).status = .succeeded ∨
    (∃ root ∈ roots, ¬ IsWhole files root) ∧
      ((∀ root ∈ roots, ¬ IsReadable files root) ∧
          (∃ reason, (resultOf files roots).status = .failed reason) ∨
        (∃ root ∈ roots, IsReadable files root) ∧
          ∃ reason, (resultOf files roots).status = .partly reason) := by
  have hproblems : ((outcomesOf files roots).filterMap fun o => problem? o.1 o.2).isEmpty ↔
      ∀ root ∈ roots, IsWhole files root := by
    simp [outcomesOf, List.filterMap_eq_nil_iff, problem?_eq_none_iff]
  have hfailures : ((outcomesOf files roots).all fun o => !o.2.isOk) ↔
      ∀ root ∈ roots, ¬ IsReadable files root := by
    simp [outcomesOf, ← isOk_outcomeAt]
  rw [resultOf, summarize]
  by_cases hwhole : ∀ root ∈ roots, IsWhole files root
  · rw [if_pos (hproblems.mpr hwhole)]
    exact .inl ⟨hwhole, rfl⟩
  · rw [if_neg fun h => hwhole (hproblems.mp h)]
    have hsome : ∃ root ∈ roots, ¬ IsWhole files root := by simpa using hwhole
    by_cases hread : ∀ root ∈ roots, ¬ IsReadable files root
    · rw [if_pos (hfailures.mpr hread)]
      exact .inr ⟨hsome, .inl ⟨hread, _, rfl⟩⟩
    · rw [if_neg fun h => hread (hfailures.mp h)]
      exact .inr ⟨hsome, .inr ⟨by simpa using hread, _, rfl⟩⟩

structure ScanLaw (roots : List String) (result : ScanResult) : Prop where
  packages : result.packages = roots.flatMap (packagesAt files)
  succeeded_iff : result.status = .succeeded ↔ ∀ root ∈ roots, IsWhole files root
  failed_iff : (∃ reason, result.status = .failed reason) ↔
    roots ≠ [] ∧ ∀ root ∈ roots, ¬ IsReadable files root
  partly_iff : (∃ reason, result.status = .partly reason) ↔
    (∃ root ∈ roots, ¬ IsWhole files root) ∧ ∃ root ∈ roots, IsReadable files root
  /-- A failed scan has no packages. -/
  failed_packages : ∀ reason, result.status = .failed reason → result.packages = []

theorem packagesAt_of_not_isReadable {root : String} (h : ¬ IsReadable files root) :
    packagesAt files root = [] := by
  rw [packagesAt, stanzasAt]
  rw [IsReadable] at h
  cases hfile : files (statusPath root) with
  | error cause => rfl
  | ok text => exact absurd (by rw [hfile]; rfl) h

theorem scanLaw_resultOf (roots : List String) : ScanLaw files roots (resultOf files roots) := by
  have hpackages := packages_resultOf files roots
  rcases status_resultOf files roots with ⟨hwhole, hstatus⟩ |
    ⟨⟨bad, hbad, hnot⟩, ⟨hread, reason, hstatus⟩ | ⟨⟨good, hgood, hread⟩, reason, hstatus⟩⟩
  · refine ⟨hpackages, by simpa [hstatus] using hwhole, ?_, ?_, by simp [hstatus]⟩
    -- a root that is whole was read, so that none can be unread unless there is none at all
    · refine ⟨by simp [hstatus], fun ⟨hne, hread⟩ => ?_⟩
      obtain ⟨root, hroot⟩ := List.exists_mem_of_ne_nil _ hne
      exact absurd (hwhole root hroot).1 (hread root hroot)
    · refine ⟨by simp [hstatus], fun ⟨⟨root, hroot, hnot⟩, _⟩ => absurd (hwhole root hroot) hnot⟩
  -- a problem needs a root, so that a scan of no roots is none of the two others
  · have hne : roots ≠ [] := List.ne_nil_of_mem hbad
    refine ⟨hpackages, ?_, ⟨fun _ => ⟨hne, hread⟩, fun _ => ⟨reason, hstatus⟩⟩, ?_, fun _ _ => ?_⟩
    · exact ⟨by simp [hstatus], fun hwhole => absurd (hwhole bad hbad) hnot⟩
    · exact ⟨by simp [hstatus], fun ⟨_, root, hroot, h⟩ => absurd h (hread root hroot)⟩
    · rw [hpackages, List.flatMap_eq_nil_iff]
      exact fun root hroot => packagesAt_of_not_isReadable files (hread root hroot)
  · refine ⟨hpackages, ?_, ?_, ?_, by simp [hstatus]⟩
    · exact ⟨by simp [hstatus], fun hwhole => absurd (hwhole bad hbad) hnot⟩
    · exact ⟨by simp [hstatus], fun ⟨_, hnone⟩ => absurd hread (hnone good hgood)⟩
    · exact ⟨fun _ => ⟨⟨bad, hbad, hnot⟩, good, hgood, hread⟩, fun _ => ⟨reason, hstatus⟩⟩

end StatusDatabase

/-! ## Extractions -/

/-- What an extraction makes of a scan. -/
structure ExtractionLaw (result : ScanResult) (outcome : Except InventoryError Extraction) :
    Prop where
  error_iff : ∀ e, outcome = .error e ↔
    ∃ reason, result.status = .failed reason ∧ e = .scanFailed reason
  skipped : ∀ x, outcome = .ok x → x.skipped = 0
  /-- One item for each package, in order. -/
  items : ∀ x, outcome = .ok x →
    List.Forall₂ (fun p item => InventoryItem.ofScanned p = .ok item) result.packages x.items
  partialFailure_iff : ∀ x, outcome = .ok x → ∀ reason,
    x.partialFailure = some reason ↔ result.status = .partly reason

namespace Extraction

/-- Where each package has a mapping, an extraction leaves none of them out. -/
theorem ofScan_law {result : ScanResult}
    (h : ∀ p ∈ result.packages, ∃ item, InventoryItem.ofScanned p = .ok item) :
    ExtractionLaw result (ofScan result) := by
  have hmapped : ∀ p ∈ result.packages, p.isMapped = true := fun p hp => by
    obtain ⟨item, hitem⟩ := h p hp
    exact (InventoryItem.ofScanned_eq_ok_iff.mp hitem).isMapped
  refine ⟨fun e => ofScan_eq_error_iff, fun x hx => ?_, fun x hx => ?_, fun x hx => ?_⟩
  · rw [(conserves_of_ofScan hx).skipped, List.length_eq_zero_iff, List.filter_eq_nil_iff]
    simpa using hmapped
  · have hitems := (conserves_of_ofScan hx).items
    rw [List.filter_eq_self.mpr hmapped] at hitems
    exact hitems.imp fun _ _ => InventoryItem.ofScanned_eq_ok_iff.mpr
  · exact (conserves_of_ofScan hx).partialFailure_iff

end Extraction

theorem Scanner.gives_extract {scanner : Scanner Session} {sources : List ScanSource}
    {result : ScanResult} (h : (scanner.scan sources).Gives result) :
    ((scanner.extractor sources).extract).Gives (Extraction.ofScan result) := by
  refine h.bind ?_
  cases Extraction.ofScan result with
  | error e => exact Session.gives_pure _
  | ok extraction => exact (Session.gives_reportAll _).bind (Session.gives_pure _)

namespace StatusDatabase

theorem exists_ofScanned_packageOf (osId : Option String) (s : Stanza) :
    ∃ item, InventoryItem.ofScanned (packageOf osId s) = .ok item :=
  ⟨_, rfl⟩

/-- Scanning any roots, whatever can be read below them, comes to an end and gives the packages of
the roots and the status that the roots deserve; the extraction of them fails just if the scan
failed, and otherwise has an item for each package and names the loss, if there is one. -/
theorem scan_conserves (files : String → Except SystemError String) (roots : List String) :
    ∃ result outcome,
      ((scanner (.known files)).scan (roots.map .dpkg)).Gives result ∧
      (((scanner (.known files)).extractor (roots.map .dpkg)).extract).Gives outcome ∧
      ScanLaw files roots result ∧ ExtractionLaw result outcome := by
  have hgives := gives_scan files roots
  refine ⟨_, _, hgives, Scanner.gives_extract hgives, scanLaw_resultOf files roots,
    Extraction.ofScan_law fun p hp => ?_⟩
  rw [packages_resultOf] at hp
  obtain ⟨root, -, hroot⟩ := List.mem_flatMap.mp hp
  obtain ⟨s, -, rfl⟩ := List.mem_map.mp hroot
  exact exists_ofScanned_packageOf _ s

end StatusDatabase

end HostInventory
