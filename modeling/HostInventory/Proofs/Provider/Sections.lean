import Mathlib.Data.List.Find
import HostInventory.Proofs.Provider.Transaction

/-!
# Where updates come from

Each update that is read of a printed transaction comes from a row, and the nearest heading before
that row is one for installing or upgrading (`updates_stand_under_wanted_headings`). A heading ends
in a colon and has at most three words. Longer lines that end in a colon are printed as well, for
packages that are skipped. They are taken for rows: the section before them goes on, so that what is
skipped counts as updates, and with five words they are taken for an update themselves
(`skipped_packages_reported`). Without such lines it comes to the same whether headings are short.

The flag of the reader is a matter of the lines that have been read: the nearest heading among them
decides (`scan_placesFrom`).
-/

namespace HostInventory.Yum

/-- A line among others, with those before it. -/
structure Place where
  before : List (List Char)
  line : List Char
deriving DecidableEq

def placesFrom (before : List (List Char)) : List (List Char) → List Place
  | [] => []
  | line :: rest => ⟨before, line⟩ :: placesFrom (before ++ [line]) rest

def places (ls : List (List Char)) : List Place :=
  placesFrom [] ls

theorem mem_placesFrom {p : Place} {before ls : List (List Char)} :
    p ∈ placesFrom before ls ↔
      ∃ between after, p.before = before ++ between ∧ ls = between ++ p.line :: after := by
  induction ls generalizing before with
  | nil => simp [placesFrom]
  | cons line rest ih =>
      rw [placesFrom, List.mem_cons, ih]
      constructor
      · rintro (rfl | ⟨between, after, hbefore, rfl⟩)
        · exact ⟨[], rest, (List.append_nil _).symm, rfl⟩
        · exact ⟨line :: between, after, by rw [hbefore, List.append_assoc]; rfl, rfl⟩
      · rintro ⟨_ | ⟨first, between⟩, after, hbefore, hls⟩
        · left
          rw [List.append_nil] at hbefore
          rw [(List.cons.inj hls).1, ← hbefore]
        · right
          obtain ⟨rfl, rfl⟩ := List.cons.inj hls
          exact ⟨between, after, by rw [hbefore, List.append_assoc]; rfl, rfl⟩

namespace Place

/-- The nearest line of a kind before a place. -/
def nearest? (p : Place) (kind : List Char → Prop) [DecidablePred kind] : Option (List Char) :=
  p.before.reverse.find? (kind ·)

/-- Whether a line is read as an update. -/
structure IsUpdate (p : Place) : Prop where
  wanted : ∃ heading ∈ p.nearest? IsHeading, IsWanted heading
  noHeading : ¬ IsHeading p.line
  noSummary : ∀ line ∈ p.before ++ [p.line], ¬ StartsSummary line
  lists : Lists p.line

instance : DecidablePred IsUpdate := fun p =>
  decidable_of_iff ((∃ heading ∈ p.nearest? IsHeading, IsWanted heading) ∧ ¬ IsHeading p.line ∧
      (∀ line ∈ p.before ++ [p.line], ¬ StartsSummary line) ∧ Lists p.line)
    ⟨fun ⟨hw, hh, hs, hl⟩ => ⟨hw, hh, hs, hl⟩, fun h => ⟨h.1, h.2, h.3, h.4⟩⟩

end Place

/-! ## The flag of the reader -/

/-- Whether the nearest heading among lines is one for installing or upgrading. -/
def EndInWanted (ls : List (List Char)) : Prop :=
  ∃ heading ∈ ls.reverse.find? (IsHeading ·), IsWanted heading

instance : DecidablePred EndInWanted := fun ls =>
  inferInstanceAs (Decidable (∃ heading ∈ ls.reverse.find? (IsHeading ·), IsWanted heading))

theorem endInWanted_concat_of_isHeading {line : List Char} (h : IsHeading line)
    (before : List (List Char)) : EndInWanted (before ++ [line]) ↔ IsWanted line := by
  simp [EndInWanted, h]

theorem endInWanted_concat_of_not_isHeading {line : List Char} (h : ¬ IsHeading line)
    (before : List (List Char)) : EndInWanted (before ++ [line]) ↔ EndInWanted before := by
  simp [EndInWanted, h]

theorem Place.isUpdate_iff {before : List (List Char)} {line : List Char}
    (hbefore : ∀ l ∈ before, ¬ StartsSummary l) (hline : IsInner line) :
    IsUpdate ⟨before, line⟩ ↔ EndInWanted before ∧ Lists line := by
  constructor
  · exact fun h => ⟨h.wanted, h.lists⟩
  · rintro ⟨hwanted, hlists⟩
    have hsummary : ∀ l ∈ before ++ [line], ¬ StartsSummary l :=
      List.forall_mem_append.mpr ⟨hbefore, List.forall_mem_singleton.mpr hline.2⟩
    exact ⟨hwanted, hline.1, hsummary, hlists⟩

/-- Behind the start of the summary no line is read as an update. -/
theorem not_isUpdate_of_startsSummary {before rest : List (List Char)} {line : List Char}
    (h : StartsSummary line) {p : Place} (hp : p ∈ placesFrom before (line :: rest)) :
    ¬ p.IsUpdate := by
  intro hupdate
  obtain ⟨between, after, hbefore, hls⟩ := mem_placesFrom.mp hp
  refine hupdate.noSummary line ?_ h
  rw [hbefore]
  cases between with
  | nil => simp [(List.cons.inj hls).1]
  | cons first between => simp [(List.cons.inj hls).1]

/-- Reading on behind some lines, the flag being what they make it, gives the updates among the
lines that follow. -/
theorem scan_placesFrom {before : List (List Char)} (hbefore : ∀ l ∈ before, ¬ StartsSummary l)
    (ls : List (List Char)) :
    scan (decide (EndInWanted before)) ls =
      ((placesFrom before ls).filter (Place.IsUpdate ·)).map fun p => package p.line := by
  induction ls generalizing before with
  | nil => rfl
  | cons line rest ih =>
      rw [scan_cons]
      by_cases hsummary : StartsSummary line
      · have hnone : (placesFrom before (line :: rest)).filter (Place.IsUpdate ·) = [] :=
          List.filter_eq_nil_iff.mpr fun p hp => by
            simpa using not_isUpdate_of_startsSummary hsummary hp
        rw [if_pos hsummary, hnone]
        rfl
      · have hconcat : ∀ l ∈ before ++ [line], ¬ StartsSummary l :=
          List.forall_mem_append.mpr ⟨hbefore, List.forall_mem_singleton.mpr hsummary⟩
        rw [if_neg hsummary, placesFrom]
        by_cases hheading : IsHeading line
        · have hno : ¬ Place.IsUpdate ⟨before, line⟩ := fun h => h.noHeading hheading
          rw [if_pos hheading, List.filter_cons_of_neg (by simpa using hno), ← ih hconcat]
          simp only [endInWanted_concat_of_isHeading hheading]
        · have hupdate := Place.isUpdate_iff hbefore ⟨hheading, hsummary⟩
          have ih := ih hconcat
          simp only [endInWanted_concat_of_not_isHeading hheading] at ih
          rw [if_neg hheading, ih, List.filter_cons]
          by_cases hlists : EndInWanted before ∧ Lists line <;> simp [hupdate, hlists]

/-! ## Where updates come from -/

theorem Place.nearest?_endsInColon {p : Place}
    (h : ∀ line ∈ p.before, EndsInColon line → (Text.words line).length ≤ 3) :
    p.nearest? EndsInColon = p.nearest? IsHeading := by
  refine List.find?_congr fun line hline => ?_
  have hiff : EndsInColon line ↔ IsHeading line :=
    ⟨fun hcolon => ⟨hcolon, h line (List.mem_reverse.mp hline) hcolon⟩, fun hheading => hheading.1⟩
  simp only [hiff]

/-- What is read are the rows under headings for installing and upgrading, up to the summary, a
heading being a line of at most three words that ends in a colon; no heading is read itself. Where
all lines that end in a colon are that short, none of them is read, and the nearest one before each
update is for installing or upgrading. -/
theorem updates_stand_under_wanted_headings (data : Octets) :
    let rows := (places (Text.lines (Utf8.lossyChars data))).filter (Place.IsUpdate ·)
    parseUpdates data = rows.map (fun p => package p.line) ∧
      ∀ p ∈ rows, (∃ heading ∈ p.nearest? IsHeading, IsWanted heading) ∧ ¬ IsHeading p.line ∧
        ((∀ line ∈ p.before ++ [p.line], EndsInColon line → (Text.words line).length ≤ 3) →
          (∃ line ∈ p.nearest? EndsInColon, IsWanted line) ∧ ¬ EndsInColon p.line) := by
  intro rows
  refine ⟨scan_placesFrom (List.forall_mem_nil _) _, fun p hp => ?_⟩
  have hupdate : p.IsUpdate := of_decide_eq_true (List.mem_filter.mp hp).2
  refine ⟨hupdate.wanted, hupdate.noHeading, fun hshort => ⟨?_, fun hcolon => ?_⟩⟩
  · rw [Place.nearest?_endsInColon fun line hline => hshort line (List.mem_append_left _ hline)]
    exact hupdate.wanted
  · have hwords := hshort p.line (List.mem_append_right _ (List.mem_singleton.mpr rfl)) hcolon
    exact hupdate.noHeading ⟨hcolon, hwords⟩

/-- A transaction that upgrades one package and skips another. -/
def sampleSkipping : Octets :=
  Utf8.encode ("Upgrading:\n curl x86_64 7.61 baseos 352k\n" ++
    "Skipping packages with broken dependencies:\n foo x86_64 2.0 appstream 20k\n")

theorem updates_stand_under_wanted_headings_first :
    let rows := (places (Text.lines (Utf8.lossyChars sampleSkipping))).filter (Place.IsUpdate ·)
    let p : Place := ⟨["Upgrading:".toList], " curl x86_64 7.61 baseos 352k".toList⟩
    (p ∈ rows ∧
        ∀ line ∈ p.before ++ [p.line], EndsInColon line → (Text.words line).length ≤ 3) ∧
      parseUpdates sampleSkipping = rows.map (fun p => package p.line) ∧
      (∃ line ∈ p.nearest? EndsInColon, IsWanted line) ∧ ¬ EndsInColon p.line ∧
      package p.line = .ofFields "curl" "x86_64" "7.61" := by
  intro rows p
  have hp : p ∈ rows := by decide +kernel
  have hshort : ∀ line ∈ p.before ++ [p.line], EndsInColon line → (Text.words line).length ≤ 3 := by
    decide +kernel
  obtain ⟨hread, hrows⟩ := updates_stand_under_wanted_headings sampleSkipping
  obtain ⟨-, -, hcolon⟩ := hrows p hp
  obtain ⟨hwanted, hline⟩ := hcolon hshort
  exact ⟨⟨hp, hshort⟩, hread, hwanted, hline, by decide +kernel⟩

/-- A line of five words that ends in a colon is read as an update, and so is the row under it,
although that line is the nearest one before the row that ends in a colon and is for neither
installing nor upgrading. -/
theorem skipped_packages_reported :
    let lines := Text.lines (Utf8.lossyChars sampleSkipping)
    parseUpdates sampleSkipping = [.ofFields "curl" "x86_64" "7.61",
        .ofFields "Skipping" "packages" "with", .ofFields "foo" "x86_64" "2.0"] ∧
      (∃ p ∈ places lines, EndsInColon p.line ∧
        package p.line = .ofFields "Skipping" "packages" "with") ∧
      ∀ p ∈ places lines, package p.line = .ofFields "foo" "x86_64" "2.0" →
        ¬ ∃ line ∈ p.nearest? EndsInColon, IsWanted line := by
  decide +kernel

end HostInventory.Yum
