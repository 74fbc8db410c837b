import Mathlib.Data.List.Forall2
import HostInventory.Extraction.Basic

/-!
# What an extraction makes of a scan

Packages of an understood kind and others may come in any order. Each of them is either mapped or
counted (`length_itemsOf_add_length_skipsOf`): the items are those of the packages that have one, in
the order of the scan (`forall₂_itemsOf`), and nothing but the others is left out
(`length_skipsOf`). So an extraction, which only a failed scan does not have, conserves the packages
of the scan, and its own packages say what its items say (`packages_conserved`).
-/

namespace HostInventory

namespace ScannedPackage

/-- Whether a package is of a kind that is understood. -/
def isMapped (p : ScannedPackage) : Bool :=
  match p.details with
  | .dpkg _ => true
  | .unsupported _ => false

/-- The item of a package says all that the scan says of it. -/
inductive HasItem : ScannedPackage → InventoryItem → Prop where
  | dpkg (name version : String) (details : DpkgDetails) :
      HasItem ⟨name, version, .dpkg details⟩ {
        name, version
        rawArch := details.arch
        source := ⟨details.sourceName, details.sourceVersion⟩
        purl := packageUrl name version details.arch details.osId }

end ScannedPackage

/-- The package of an item says what the item says but for the URL, and names its architecture in
both ways. -/
structure InventoryItem.HasPackage (item : InventoryItem) (p : Package) : Prop where
  name : p.name = item.name
  rawArch : p.rawArch = item.rawArch
  arch : p.arch = Architecture.canonical item.rawArch
  version : p.version = item.version
  source : p.source = item.source

theorem InventoryItem.hasPackage_toPackage (item : InventoryItem) :
    item.HasPackage item.toPackage := by
  constructor <;> simp only [toPackage, Package.ofFields, Package.withSource]

theorem ScannedPackage.HasItem.isMapped {p : ScannedPackage} {item : InventoryItem}
    (h : p.HasItem item) : p.isMapped = true := by
  cases h
  rfl

theorem InventoryItem.ofScanned_eq_ok_iff {p : ScannedPackage} {item : InventoryItem} :
    ofScanned p = .ok item ↔ p.HasItem item := by
  obtain ⟨name, version, details⟩ := p
  cases details with
  | dpkg details =>
      constructor
      · rintro ⟨⟩
        exact .dpkg name version details
      · rintro ⟨⟩
        rfl
  | unsupported kind => exact ⟨nofun, nofun⟩

namespace Extraction

/-! ## One package after the other -/

theorem forall₂_itemsOf (scanned : List ScannedPackage) :
    List.Forall₂ ScannedPackage.HasItem (scanned.filter (·.isMapped)) (itemsOf scanned) := by
  induction scanned with
  | nil => exact .nil
  | cons p rest ih =>
      obtain ⟨name, version, details⟩ := p
      cases details with
      | dpkg details => exact .cons (.dpkg name version details) ih
      | unsupported kind => exact ih

theorem length_skipsOf (scanned : List ScannedPackage) :
    (skipsOf scanned).length = (scanned.filter (!·.isMapped)).length := by
  induction scanned with
  | nil => rfl
  | cons p rest ih =>
      obtain ⟨name, version, details⟩ := p
      cases details with
      | dpkg details => exact ih
      | unsupported kind => exact congrArg (· + 1) ih

theorem length_itemsOf_add_length_skipsOf (scanned : List ScannedPackage) :
    (itemsOf scanned).length + (skipsOf scanned).length = scanned.length := by
  rw [← (forall₂_itemsOf scanned).length_eq, length_skipsOf]
  exact (List.length_eq_length_filter_add ScannedPackage.isMapped).symm

theorem forall₂_packages (x : Extraction) :
    List.Forall₂ InventoryItem.HasPackage x.items x.packages := by
  rw [packages, List.forall₂_map_right_iff, List.forall₂_same]
  exact fun item _ => item.hasPackage_toPackage

/-! ## Whole scans -/

/-- What an extraction has of a scan. -/
structure Conserves (result : ScanResult) (x : Extraction) : Prop where
  /-- No package is lost, and none is invented. -/
  length_add_skipped : x.items.length + x.skipped = result.packages.length
  /-- The items are those of the packages of an understood kind, in order. -/
  items : List.Forall₂ ScannedPackage.HasItem (result.packages.filter (·.isMapped)) x.items
  /-- All others are counted, and only they. -/
  skipped : x.skipped = (result.packages.filter (!·.isMapped)).length
  partialFailure_iff : ∀ reason, x.partialFailure = some reason ↔ result.status = .partly reason
  packages : List.Forall₂ InventoryItem.HasPackage x.items x.packages

variable {result : ScanResult}

theorem ofScan_eq_error_iff {e : InventoryError} : ofScan result = .error e ↔
    ∃ reason, result.status = .failed reason ∧ e = .scanFailed reason := by
  unfold ofScan
  cases result.status with
  | failed reason => simp [eq_comm]
  | partly reason => simp
  | succeeded => simp

theorem conserves_ofScanned {partialFailure : Option String}
    (h : ∀ reason, partialFailure = some reason ↔ result.status = .partly reason) :
    Conserves result (ofScanned result.packages partialFailure) where
  length_add_skipped := length_itemsOf_add_length_skipsOf result.packages
  items := forall₂_itemsOf result.packages
  skipped := length_skipsOf result.packages
  partialFailure_iff := h
  packages := forall₂_packages _

theorem conserves_of_ofScan {x : Extraction} (h : ofScan result = .ok x) :
    Conserves result x := by
  unfold ofScan at h
  cases hstatus : result.status with
  | failed reason =>
      rw [hstatus] at h
      cases h
  | partly reason =>
      rw [hstatus] at h
      obtain rfl := Except.ok.inj h
      refine conserves_ofScanned fun reason' => ?_
      rw [hstatus, Option.some_inj, ScanStatus.partly.injEq]
  | succeeded =>
      rw [hstatus] at h
      obtain rfl := Except.ok.inj h
      refine conserves_ofScanned fun reason' => ?_
      simp [hstatus]

/-- Just a failed scan has no extraction, and its reason is the failure. The extraction of any other
scan conserves the packages that were found, however those of kinds that are not understood are
mixed among them. -/
theorem packages_conserved (result : ScanResult) :
    (∀ e, ofScan result = .error e ↔
      ∃ reason, result.status = .failed reason ∧ e = .scanFailed reason) ∧
    ((∀ reason, result.status ≠ .failed reason) →
      ∃ x, ofScan result = .ok x ∧ Conserves result x) := by
  refine ⟨fun e => ofScan_eq_error_iff, fun hstatus => ?_⟩
  cases h : ofScan result with
  | error e =>
      obtain ⟨reason, hfailed, -⟩ := ofScan_eq_error_iff.mp h
      exact absurd hfailed (hstatus reason)
  | ok x => exact ⟨x, rfl, conserves_of_ofScan h⟩

/-- A scan that lost something and does not understand the package in the middle. -/
def mixedScan : ScanResult where
  status := .partly "lost"
  packages := [⟨"curl", "8", .dpkg ⟨"amd64", "", "", none⟩⟩,
    ⟨"requests", "2", .unsupported "python"⟩, ⟨"tar", "1", .dpkg ⟨"arm64", "", "", none⟩⟩]

theorem packages_conserved_mixed :
    (∀ reason, mixedScan.status ≠ .failed reason) ∧
    ∃ x, ofScan mixedScan = .ok x ∧
      x.items.map (·.purl) = ["pkg:deb/linux/curl@8?arch=amd64", "pkg:deb/linux/tar@1?arch=arm64"] ∧
      x.skipped = 1 ∧ x.partialFailure = some "lost" := by
  have hstatus : ∀ reason, mixedScan.status ≠ .failed reason := nofun
  obtain ⟨x, hx, hlaw⟩ := (packages_conserved mixedScan).2 hstatus
  refine ⟨hstatus, x, hx, ?_, hlaw.skipped, (hlaw.partialFailure_iff "lost").mpr rfl⟩
  obtain rfl := Except.ok.inj hx
  rfl

end Extraction

end HostInventory
