import HostInventory.Proofs.Text.LineFeed
import HostInventory.Proofs.Text.Words
import HostInventory.Provider.Yum

/-!
# The printed transaction is read section by section

The dry run of yum prints a table: some lines first, then sections under headings, then perhaps a
summary and whatever follows it. What is read of a table is the rows of those sections whose heading
begins with a word for installing or upgrading, in order, and what stands behind the line that
starts the summary has no influence (`transaction_read_by_section`). Since the kinds of lines
exclude each other and no order of them is ruled out, all octets are a table in this sense, so that
nothing is left open about any other input.

Reading goes line by line with one flag, whether the section is wanted. What one line does to it is
said once (`scan_cons`). A line is taken as it was decoded, blanks around it and the carriage return
of its line end included; all that is asked of it is asked of its words, or of what is left without
those blanks. Four kinds of lines are told apart, in this order: a line that starts the summary, a
heading, a line that begins with `replacing`, and a row.
-/

namespace HostInventory.Yum

/-! ## Kinds of lines -/

def EndsInColon (line : List Char) : Prop :=
  (Text.trim line).getLast? = some ':'

def IsHeading (line : List Char) : Prop :=
  EndsInColon line ∧ (Text.words line).length ≤ 3

def StartsSummary (line : List Char) : Prop :=
  "Transaction Summary".toList <+: Text.trim line

/-- Whether a heading announces what will be installed or upgraded. -/
def IsWanted (heading : List Char) : Prop :=
  ∃ mark ∈ ["Installing", "Upgrading", "Updating"], mark.toList <+: Text.trim heading

/-- Whether a line of a section lists a package: it has at least five words, the first of which is
not `replacing`. -/
def Lists (line : List Char) : Prop :=
  5 ≤ (Text.words line).length ∧ (Text.words line).head? ≠ some "replacing".toList

/-- The first three words of a line, taken for name, architecture and version. -/
def package (line : List Char) : Package :=
  let word (i : Nat) := String.ofList ((Text.words line).getD i [])
  .ofFields (word 0) (word 1) (word 2)

instance : DecidablePred EndsInColon :=
  fun line => inferInstanceAs (Decidable ((Text.trim line).getLast? = some ':'))

instance : DecidablePred IsHeading :=
  fun line => inferInstanceAs (Decidable (EndsInColon line ∧ (Text.words line).length ≤ 3))

instance : DecidablePred StartsSummary :=
  fun line => inferInstanceAs (Decidable ("Transaction Summary".toList <+: Text.trim line))

instance : DecidablePred IsWanted :=
  fun heading => inferInstanceAs (Decidable (∃ mark ∈ ["Installing", "Upgrading", "Updating"],
    mark.toList <+: Text.trim heading))

instance : DecidablePred Lists :=
  fun line => inferInstanceAs (Decidable (5 ≤ (Text.words line).length ∧
    (Text.words line).head? ≠ some "replacing".toList))

theorem isHeading_trim {line : List Char} : isHeading (Text.trim line) = true ↔ IsHeading line := by
  rw [isHeading, Text.words_trim, Bool.and_eq_true, beq_iff_eq, decide_eq_true_eq]
  rfl

theorem isSummary_trim {line : List Char} :
    isSummary (Text.trim line) = true ↔ StartsSummary line :=
  Text.hasPrefix_iff

theorem isWanted_trim (heading : List Char) :
    isWanted (Text.trim heading) = decide (IsWanted heading) := by
  rw [Bool.eq_iff_iff, decide_eq_true_eq, isWanted, Bool.or_eq_true, Bool.or_eq_true,
    Text.hasPrefix_iff, Text.hasPrefix_iff, Text.hasPrefix_iff]
  simp [IsWanted, or_assoc]

theorem rowPackage?_trim (line : List Char) :
    rowPackage? (Text.trim line) = if Lists line then some (package line) else none := by
  rw [rowPackage?, Text.words_trim, package]
  change _ = if 5 ≤ (Text.words line).length ∧ (Text.words line).head? ≠ some "replacing".toList
    then _ else none
  generalize "replacing".toList = mark
  rcases Text.words line with _ | ⟨name, _ | ⟨arch, _ | ⟨version, _ | ⟨origin, _ | ⟨size, rest⟩⟩⟩⟩⟩
  case cons.cons.cons.cons.cons => by_cases hname : name = mark <;> simp [hname]
  -- too few words
  all_goals simp

/-! ## One line -/

/-- The packages of lines that stand inside a wanted section or not. -/
def scan (wanted : Bool) (ls : List (List Char)) : List Package :=
  collect wanted (ls.map Text.trim)

theorem scan_cons (wanted : Bool) (line : List Char) (rest : List (List Char)) :
    scan wanted (line :: rest) =
      if StartsSummary line then []
      else if IsHeading line then scan (decide (IsWanted line)) rest
      else (if wanted = true ∧ Lists line then [package line] else []) ++ scan wanted rest := by
  rw [scan, List.map_cons, collect]
  by_cases hempty : Text.trim line = []
  · have hwords : Text.words line = [] := by
      rw [← Text.words_trim, hempty]
      rfl
    simp [hempty, hwords, StartsSummary, IsHeading, EndsInColon, Lists, scan]
  · have hsome : (Text.trim line).isEmpty = false := by simpa using hempty
    simp only [hsome, isSummary_trim, isHeading_trim, isWanted_trim, rowPackage?_trim, scan,
      Bool.false_eq_true, if_false]
    cases wanted with
    | false => simp
    | true => by_cases hlists : Lists line <;> simp [hlists]

/-! ## All lines -/

/-- Whether a line neither starts a section nor ends the table. -/
def IsInner (line : List Char) : Prop :=
  ¬ IsHeading line ∧ ¬ StartsSummary line

theorem scan_inner (wanted : Bool) {inner : List (List Char)} (h : ∀ line ∈ inner, IsInner line)
    (rest : List (List Char)) :
    scan wanted (inner ++ rest) =
      (if wanted = true then (inner.filter Lists).map package else []) ++ scan wanted rest := by
  induction inner with
  | nil => simp
  | cons line inner ih =>
      obtain ⟨⟨hheading, hsummary⟩, hinner⟩ := List.forall_mem_cons.mp h
      rw [List.cons_append, scan_cons, if_neg hsummary, if_neg hheading, ih hinner]
      by_cases hlists : Lists line
      · cases wanted <;> simp [hlists]
      · simp [hlists]

/-- What stands behind the start of the summary is not read. -/
theorem scan_append_of_mem {ls : List (List Char)} (h : ∃ line ∈ ls, StartsSummary line)
    (wanted : Bool) (rest : List (List Char)) : scan wanted (ls ++ rest) = scan wanted ls := by
  induction ls generalizing wanted with
  | nil =>
      obtain ⟨line, hline, -⟩ := h
      cases hline
  | cons line ls ih =>
      rw [List.cons_append, scan_cons, scan_cons]
      by_cases hsummary : StartsSummary line
      · rw [if_pos hsummary, if_pos hsummary]
      · have hlater : ∃ later ∈ ls, StartsSummary later := by
          obtain ⟨later, hmem, hlater⟩ := h
          rcases List.mem_cons.mp hmem with rfl | hmem
          · exact absurd hlater hsummary
          · exact ⟨later, hmem, hlater⟩
        simp only [ih hlater]

theorem scan_concat_nil (wanted : Bool) (ls : List (List Char)) :
    scan wanted (ls ++ [[]]) = scan wanted ls := by
  induction ls generalizing wanted with
  | nil => rfl
  | cons line ls ih => rw [List.cons_append, scan_cons, scan_cons, ih, ih]

theorem scan_congr {ls ls' : List (List Char)} (h : ls.map Text.trim = ls'.map Text.trim)
    (wanted : Bool) : scan wanted ls = scan wanted ls' := by
  rw [scan, scan, h]

theorem parseUpdates_eq (data : Octets) :
    parseUpdates data = scan false (Text.lines (Utf8.lossyChars data)) :=
  rfl

/-! ## Lines of octets -/

/-- A line as it was printed, without the line feed behind it. -/
structure Line where
  octets : Octets
  oneLine : 0x0A ∉ octets

def Line.text (line : Line) : List Char :=
  Utf8.lossyChars line.octets

theorem trim_lines_lineFeed {ls : List Line} (h : ls ≠ []) :
    (Text.lines (Utf8.lossyChars (.ofLines (ls.map Line.octets)) ++ ['\n'])).map Text.trim =
      (ls.map Line.text).map Text.trim := by
  have hfeeds : ∀ text ∈ ls.map Line.text, '\n' ∉ text :=
    List.forall_mem_map.mpr fun line _ => Utf8.lineFeed_not_mem_lossyChars line.oneLine
  have hne : ls.map Line.text ≠ [] := mt List.map_eq_nil_iff.mp h
  have hdecoded : (ls.map Line.octets).map Utf8.lossyChars = ls.map Line.text := List.map_map
  rw [Octets.lossyChars_ofLines, hdecoded, Text.joinWith_concat_lineFeed hne,
    Text.lines_flatMap hfeeds, List.map_map]
  exact List.map_congr_left fun text _ => Text.trim_dropReturn text

theorem parseUpdates_ofLines (ls : List Line) :
    parseUpdates (.ofLines (ls.map Line.octets)) = scan false (ls.map Line.text) := by
  by_cases hls : ls = []
  · rw [hls]
    rfl
  · have htrim := trim_lines_lineFeed hls
    rw [parseUpdates_eq]
    rcases Text.map_lines_concat_lineFeed Text.trim_dropReturn
      (Utf8.lossyChars (.ofLines (ls.map Line.octets))) with h | h
    · exact scan_congr (h.symm.trans htrim) false
    · rw [← scan_concat_nil]
      refine scan_congr (Eq.trans ?_ htrim) false
      rw [h, List.map_append]
      rfl

/-- What is printed behind the line that starts the summary makes no difference. -/
theorem parseUpdates_of_mem {ls : List Line} (h : ∃ line ∈ ls, StartsSummary line.text)
    (after : List Octets) :
    parseUpdates (.ofLines (ls.map Line.octets ++ after)) = scan false (ls.map Line.text) := by
  obtain ⟨line, hline, hsummary⟩ := h
  have hne : ls.map Line.octets ≠ [] := List.ne_nil_of_mem (List.mem_map_of_mem hline)
  by_cases hafter : after = []
  · rw [hafter, List.append_nil, parseUpdates_ofLines]
  · have hmem : ∃ text ∈ ls.map Line.text, StartsSummary text :=
      ⟨line.text, List.mem_map_of_mem hline, hsummary⟩
    have htrim := trim_lines_lineFeed (List.ne_nil_of_mem hline)
    rw [Octets.ofLines_append hne hafter, parseUpdates_eq, Utf8.lossyChars_append_lineFeed,
      Text.lines_append_lineFeed]
    generalize Text.lines (Utf8.lossyChars (.ofLines after)) = later
    rw [← scan_append_of_mem hmem false later]
    refine scan_congr ?_ false
    rw [List.map_append, List.map_append, htrim]

/-! ## Tables -/

structure Section where
  heading : Line
  lines : List Line
  isHeading : IsHeading heading.text ∧ ¬ StartsSummary heading.text
  inner : ∀ line ∈ lines, IsInner line.text

/-- The end of a table: the line that starts the summary, and whatever octets stand in the lines
behind it. -/
structure Ending where
  summary : Line
  after : List Octets
  isSummary : StartsSummary summary.text

/-- A printed transaction. The lines of a section and those before the first section may be rows,
blank lines or lines that begin with `replacing`. -/
structure Table where
  preamble : List Line
  sections : List Section
  ending : Option Ending
  inner : ∀ line ∈ preamble, IsInner line.text

namespace Table

/-- The lines before the summary. -/
def body (t : Table) : List Line :=
  t.preamble ++ t.sections.flatMap fun s => s.heading :: s.lines

/-- What is printed, a line feed between each two lines. -/
def octets (t : Table) : Octets :=
  .ofLines (t.body.map Line.octets ++
    (t.ending.map fun e => e.summary.octets :: e.after).getD [])

end Table

/-- The packages that the rows of a section list. -/
def Section.packages (s : Section) : List Package :=
  (s.lines.filter fun line => Lists line.text).map fun line => package line.text

theorem scan_section (wanted : Bool) (s : Section) (rest : List (List Char)) :
    scan wanted (s.heading.text :: s.lines.map Line.text ++ rest) =
      (if IsWanted s.heading.text then s.packages else []) ++
        scan (decide (IsWanted s.heading.text)) rest := by
  have hinner : ∀ text ∈ s.lines.map Line.text, IsInner text :=
    List.forall_mem_map.mpr s.inner
  have hpackages : ((s.lines.map Line.text).filter Lists).map package = s.packages := by
    rw [List.filter_map, List.map_map]
    rfl
  rw [List.cons_append, scan_cons, if_neg s.isHeading.2, if_pos s.isHeading.1,
    scan_inner _ hinner, hpackages]
  simp only [decide_eq_true_eq]

/-- Each section is read by its own heading, whatever the one before it was. -/
theorem scan_sections {rest : List (List Char)} (hrest : ∀ wanted, scan wanted rest = [])
    (sections : List Section) (wanted : Bool) :
    scan wanted ((sections.flatMap fun s => s.heading.text :: s.lines.map Line.text) ++ rest) =
      (sections.filter fun s => IsWanted s.heading.text).flatMap Section.packages := by
  induction sections generalizing wanted with
  | nil => exact hrest wanted
  | cons s sections ih =>
      rw [List.flatMap_cons, List.append_assoc, scan_section, ih]
      by_cases hwanted : IsWanted s.heading.text <;> simp [hwanted]

theorem Table.scan_body (t : Table) {rest : List (List Char)}
    (hrest : ∀ wanted, scan wanted rest = []) :
    scan false (t.body.map Line.text ++ rest) =
      (t.sections.filter fun s => IsWanted s.heading.text).flatMap Section.packages := by
  have hinner : ∀ text ∈ t.preamble.map Line.text, IsInner text :=
    List.forall_mem_map.mpr t.inner
  have hbody : t.body.map Line.text = t.preamble.map Line.text ++
      t.sections.flatMap fun s => s.heading.text :: s.lines.map Line.text := by
    rw [Table.body, List.map_append, List.map_flatMap]
    rfl
  rw [hbody, List.append_assoc, scan_inner false hinner, scan_sections hrest]
  rfl

/-- All lines are those of a table. -/
theorem exists_table (ls : List Line) :
    ∃ t : Table, t.body.map Line.octets ++
      (t.ending.map fun e => e.summary.octets :: e.after).getD [] = ls.map Line.octets := by
  induction ls with
  | nil => exact ⟨⟨[], [], none, nofun⟩, rfl⟩
  | cons line ls ih =>
      obtain ⟨t, ht⟩ := ih
      by_cases hsummary : StartsSummary line.text
      · exact ⟨⟨[], [], some ⟨line, ls.map Line.octets, hsummary⟩, nofun⟩, rfl⟩
      · by_cases hheading : IsHeading line.text
        · let first : Section := ⟨line, t.preamble, ⟨hheading, hsummary⟩, t.inner⟩
          refine ⟨⟨[], first :: t.sections, t.ending, nofun⟩, ?_⟩
          rw [List.map_cons, ← ht]
          simp [Table.body, first]
        · have hinner : ∀ l ∈ line :: t.preamble, IsInner l.text :=
            List.forall_mem_cons.mpr ⟨⟨hheading, hsummary⟩, t.inner⟩
          refine ⟨⟨line :: t.preamble, t.sections, t.ending, hinner⟩, ?_⟩
          rw [List.map_cons, ← ht]
          simp [Table.body]

/-- What is read of a printed transaction is a package for each row of five words or more in the
sections under the headings for installing and upgrading, its first three words being the name, the
architecture and the version: in the order of the rows, and whatever stands behind the line that
starts the summary. All octets are a transaction of this kind. -/
theorem transaction_read_by_section :
    (∀ t : Table, parseUpdates t.octets =
      (t.sections.filter fun s => IsWanted s.heading.text).flatMap fun s =>
        (s.lines.filter fun line => Lists line.text).map fun line => package line.text) ∧
      ∀ data : Octets, ∃ t : Table, t.octets = data := by
  constructor
  · intro t
    rw [Table.octets]
    cases hending : t.ending with
    | none =>
        have hend : ∀ wanted, scan wanted [] = [] := fun _ => rfl
        have hbody := t.scan_body hend
        rw [List.append_nil] at hbody
        simp only [Option.map_none, Option.getD_none, List.append_nil]
        exact (parseUpdates_ofLines t.body).trans hbody
    | some e =>
        have hend : ∀ wanted, scan wanted [e.summary.text] = [] := by
          intro wanted
          rw [scan_cons, if_pos e.isSummary]
        have hsummary : ∃ line ∈ t.body ++ [e.summary], StartsSummary line.text :=
          ⟨e.summary, List.mem_append_right _ (List.mem_singleton.mpr rfl), e.isSummary⟩
        have hread := parseUpdates_of_mem hsummary e.after
        rw [List.map_append, List.map_append, List.append_assoc] at hread
        exact hread.trans (t.scan_body hend)
  · intro data
    obtain ⟨first, rest, hlines, rfl⟩ := Octets.exists_ofLines data
    let ls : List Line := (first :: rest).attach.map fun l => ⟨l.1, hlines l.1 l.2⟩
    obtain ⟨t, ht⟩ := exists_table ls
    refine ⟨t, congrArg Octets.ofLines (ht.trans ?_)⟩
    simp only [ls, List.map_map, Function.comp_def]
    exact List.attach_map_subtype_val _

example : parseUpdates (Utf8.encode ("Upgrading:\r\n a noarch 1 r 2k\r\n  replacing b 0 r 2k\r\n" ++
    "Removing:\n c noarch 1 r 2k\nTransaction Summary\nUpgrading:")) =
    [.ofFields "a" "noarch" "1"] := by
  decide +kernel

end HostInventory.Yum
