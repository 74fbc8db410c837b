import Mathlib.Data.List.Basic
import HostInventory.Proofs.Provider.LineByLine

/-!
# Listings say what was listed

A query prints one line for each package: rpm the name, the architecture and the version, apt the
name with the suite, the new version, the architecture and the version that is replaced. What is
read of such lines is the packages that they were written for, in order, whichever line ends there
are and whatever alphabet the words are in (`listed_packages_are_read`).

A line is taken apart at its blanks, so all that is asked of a word is that no blank stands in it.
In the lines of apt the name ends at the first slash, and no name may begin like the remarks that
apt prints between the updates.
-/

namespace HostInventory

/-- Whether a text is a word of a line. -/
structure IsWord (s : String) : Prop where
  ne_nil : s.toList ≠ []
  solid : ∀ c ∈ s.toList, Text.isBlank c = false

structure ListedPackage where
  name : String
  arch : String
  version : String
  isName : IsWord name
  isArch : IsWord arch
  isVersion : IsWord version

def ListedPackage.package (p : ListedPackage) : Package :=
  .ofFields p.name p.arch p.version

theorem IsWord.words_append {s : String} (h : IsWord s) (rest : List Char) :
    Text.words (s.toList ++ ' ' :: rest) = s.toList :: Text.words rest :=
  Text.words_append h.ne_nil h.solid (by decide) rest

theorem IsWord.words_eq {s : String} (h : IsWord s) : Text.words s.toList = [s.toList] :=
  Text.words_of_all_not h.ne_nil h.solid

theorem Reading.packages_of_hasLines {readLine : List Char → Reading} (h : HeedsLine readLine)
    {ls : List (List Char)} {text : List Char} (hl : Text.HasLines ls text) :
    packages readLine text = ls.filterMap fun line => (readLine line).package? := by
  have hmap := hl.map_lines (f := fun line => (readLine line).package?) h.dropReturn
  have hpicked := congrArg (List.filterMap id) hmap
  simpa only [packages, List.filterMap_map, Function.comp_def, id] using hpicked

/-! ## Lines of rpm -/

namespace Rpm

/-- Name, architecture and version of a package with a space between each two. -/
def line (p : ListedPackage) : List Char :=
  p.name.toList ++ ' ' :: (p.arch.toList ++ ' ' :: p.version.toList)

theorem readLine_line (p : ListedPackage) : (readLine (line p)).package? = some p.package := by
  have hwords : Text.words (line p) = [p.name.toList, p.arch.toList, p.version.toList] := by
    rw [line, p.isName.words_append, p.isArch.words_append, p.isVersion.words_eq]
  rw [package?_readLine, hwords]
  simp [listed?, ListedPackage.package]

end Rpm

/-! ## Lines of apt -/

namespace Apt

/-- Whether a line begins as those do that list nothing. -/
def IsRemark (line : List Char) : Prop :=
  "Listing".toList <+: line ∨ "WARNING".toList <+: line

theorem isRemark_iff {line : List Char} : isRemark line = true ↔ IsRemark line := by
  rw [isRemark, Bool.or_eq_true, Text.hasPrefix_iff, Text.hasPrefix_iff, IsRemark]

/-- An update as apt lists it: the package that it brings, the suite that has it, and the version
that it replaces. -/
structure Update extends ListedPackage where
  suite : String
  old : String
  noSlash : '/' ∉ name.toList
  noRemark : ¬ IsRemark name.toList
  solidSuite : ∀ c ∈ suite.toList, Text.isBlank c = false

namespace Update

def line (u : Update) : List Char :=
  u.name.toList ++ '/' :: u.suite.toList ++ ' ' :: (u.version.toList ++ ' ' :: (u.arch.toList ++
    ' ' :: ("[upgradable from: ".toList ++ u.old.toList ++ [']'])))

theorem not_isRemark_line (u : Update) : ¬ IsRemark u.line := by
  intro h
  refine u.noRemark ?_
  rw [IsRemark, line, List.append_assoc, List.cons_append] at h
  exact h.imp (Text.prefix_of_prefix_append (by decide)) (Text.prefix_of_prefix_append (by decide))

theorem readLine_line (u : Update) : (readLine u.line).package? = some u.package := by
  have hremark : isRemark u.line = false :=
    Bool.eq_false_iff.mpr (mt isRemark_iff.mp u.not_isRemark_line)
  have hfirst : ∀ c ∈ u.name.toList ++ '/' :: u.suite.toList, Text.isBlank c = false := by
    intro c hc
    rcases List.mem_append.mp hc with hc | hc
    · exact u.isName.solid c hc
    · rcases List.mem_cons.mp hc with rfl | hc
      · decide
      · exact u.solidSuite c hc
  have hcut : Text.cutAt? (· == '/') (u.name.toList ++ '/' :: u.suite.toList) =
      some (u.name.toList, u.suite.toList) := by
    refine Text.cutAt?_append (fun c hc => ?_) rfl _
    exact beq_eq_false_iff_ne.mpr fun heq => u.noSlash (heq ▸ hc)
  rw [package?_readLine, hremark, line, Text.words_append (by simp) hfirst (by decide),
    u.isVersion.words_append, u.isArch.words_append]
  simp [listed?, hcut, ListedPackage.package]

end Update

/-- Whether lines list updates: one for each, in order, with any number of remarks and blank lines
before, between and behind them. -/
inductive Lists : List Update → List (List Char) → Prop
  | nil : Lists [] []
  | update (u : Update) {us : List Update} {ls : List (List Char)} (h : Lists us ls) :
      Lists (u :: us) (u.line :: ls)
  | remark {line : List Char} (hline : IsRemark line) {us : List Update} {ls : List (List Char)}
      (h : Lists us ls) : Lists us (line :: ls)
  | blank {line : List Char} (hline : Text.isBlankText line = true) {us : List Update}
      {ls : List (List Char)} (h : Lists us ls) : Lists us (line :: ls)

theorem package?_of_isRemark {line : List Char} (h : IsRemark line) :
    (readLine line).package? = none := by
  rw [package?_readLine, if_pos (isRemark_iff.mpr h)]

theorem package?_of_isBlankText {line : List Char} (h : Text.isBlankText line = true) :
    (readLine line).package? = none := by
  rw [package?_readLine, Text.words_of_isBlankText h]
  exact ite_self none

theorem Lists.filterMap_eq {us : List Update} {ls : List (List Char)} (h : Lists us ls) :
    (ls.filterMap fun line => (readLine line).package?) = us.map (·.package) := by
  induction h with
  | nil => rfl
  | update u _ ih => simp only [List.filterMap_cons, u.readLine_line, ih, List.map_cons]
  | remark hline _ ih => simp only [List.filterMap_cons, package?_of_isRemark hline, ih]
  | blank hline _ ih => simp only [List.filterMap_cons, package?_of_isBlankText hline, ih]

end Apt

/-! ## Listings -/

/-- What is read of the lines that are printed for packages is these packages, each with its name,
architecture and version, in order and with none besides, whichever line ends there are. -/
theorem listed_packages_are_read :
    (∀ (ps : List ListedPackage) (text : List Char), Text.HasLines (ps.map Rpm.line) text →
      Rpm.parseInstalled (Utf8.encode (String.ofList text)) = ps.map ListedPackage.package) ∧
    ∀ (us : List Apt.Update) (ls : List (List Char)) (text : List Char), Apt.Lists us ls →
      Text.HasLines ls text →
        Apt.parseUpgradable text =
          us.map fun u => Package.ofFields u.name u.arch u.version := by
  constructor
  · intro ps text hl
    have hread : Rpm.parseInstalled (Utf8.encode (String.ofList text)) =
        Reading.packages Rpm.readLine text := by
      rw [Rpm.parseInstalled, Rpm.readings, Utf8.lossyChars_encode, String.toList_ofList]
      rfl
    rw [hread, Reading.packages_of_hasLines Rpm.heedsLine hl, List.filterMap_map,
      ← List.filterMap_eq_map]
    exact List.filterMap_congr fun p _ => Rpm.readLine_line p
  · intro us ls text hlists hl
    exact (Reading.packages_of_hasLines Apt.heedsLine hl).trans hlists.filterMap_eq

theorem isWord_of_all {s : String} (h : s.toList ≠ [] ∧ s.toList.all (!Text.isBlank ·) = true) :
    IsWord s :=
  ⟨h.1, fun c hc => by simpa using List.all_eq_true.mp h.2 c hc⟩

/-- A package with letters beyond ASCII in its name and an epoch in its version. -/
def sampleListed : ListedPackage where
  name := "größe-Ω"
  arch := "noarch"
  version := "1:5.2-1"
  isName := isWord_of_all (by decide)
  isArch := isWord_of_all (by decide)
  isVersion := isWord_of_all (by decide)

/-- The package with a suite that has a slash of its own. -/
def sampleUpdate : Apt.Update where
  toListedPackage := sampleListed
  suite := "stable/security"
  old := "1:5.1-9 (held)"
  noSlash := by decide
  noRemark := by unfold Apt.IsRemark; decide
  solidSuite := (isWord_of_all (by decide)).solid

example : String.ofList (Rpm.line sampleListed) = "größe-Ω noarch 1:5.2-1" := by decide +kernel

example : String.ofList sampleUpdate.line =
    "größe-Ω/stable/security 1:5.2-1 noarch [upgradable from: 1:5.1-9 (held)]" := by
  decide +kernel

/-- Both line ends in one listing, no line end behind the last line, and an update between remarks
and blank lines. -/
theorem listed_packages_are_read_mixed :
    let rows := Rpm.line sampleListed ++ '\r' :: '\n' :: Rpm.line sampleListed
    let remarks := ["Listing...".toList, " \t".toList, "WARNING: unstable".toList]
    let updates := "Listing...".toList ++ '\r' :: '\n' :: (" \t".toList ++ '\n' ::
      ("WARNING: unstable".toList ++ '\n' :: (sampleUpdate.line ++ ['\r', '\n'])))
    let read : Package := ⟨"größe-Ω", "all", "noarch", "1:5.2-1", ⟨"", ""⟩⟩
    (Text.HasLines ([sampleListed, sampleListed].map Rpm.line) rows ∧
        Apt.Lists [sampleUpdate] (remarks ++ [sampleUpdate.line]) ∧
        Text.HasLines (remarks ++ [sampleUpdate.line]) updates) ∧
      Rpm.parseInstalled (Utf8.encode (String.ofList rows)) = [read, read] ∧
        Apt.parseUpgradable updates = [read] := by
  intro rows remarks updates read
  have hrows : Text.HasLines ([sampleListed, sampleListed].map Rpm.line) rows :=
    .carriageReturn (by decide) (.unended (by decide) (by decide))
  have hlists : Apt.Lists [sampleUpdate] (remarks ++ [sampleUpdate.line]) := by
    refine .remark ?_ (.blank (by decide) (.remark ?_ (.update sampleUpdate .nil)))
    all_goals
      unfold Apt.IsRemark
      decide
  have hupdates : Text.HasLines (remarks ++ [sampleUpdate.line]) updates := by
    refine .carriageReturn (by decide) (.lineFeed (by decide) (.lineFeed (by decide) ?_))
    exact .carriageReturn (by decide) .nil
  obtain ⟨hrpm, hapt⟩ := listed_packages_are_read
  have hread : sampleListed.package = read := by decide +kernel
  refine ⟨⟨hrows, hlists, hupdates⟩, (hrpm _ rows hrows).trans ?_,
    (hapt _ _ updates hlists hupdates).trans ?_⟩
  · rw [List.map_cons, List.map_cons, List.map_nil, hread]
  · exact congrArg ([·]) hread

end HostInventory
