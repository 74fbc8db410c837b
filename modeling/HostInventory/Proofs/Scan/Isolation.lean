import HostInventory.Proofs.Scan.Stanza
import HostInventory.Scan.Status

/-!
# Stanzas are isolated

Whatever stands before a blank line has no influence on what comes after it, and the other way
round. What is read of two documents with a blank line between them is what is read of each
(`findings_isolated`), however malformed they are: lines without a colon, continuations of nothing,
fields that are written twice, an end in the middle of a line.

The state of reading is the stanza so far and its last field, and a blank line clears both
(`ofLinesFrom_append_blank`). What needs care is where lines begin and end. Behind a line feed they
begin anew, and a line that was cut short in one document is ended by the blank line, which drops a
carriage return from it; but what a line is does not depend on that.
-/

namespace HostInventory

namespace Stanza

theorem ofLinesFrom_append_blank {line : List Char} (h : Text.isBlankText line = true)
    (rest : List (List Char)) :
    ∀ (ls : List (List Char)) (s : Stanza) (last : Option (List Char)),
      ofLinesFrom s last (ls ++ line :: rest) = ofLinesFrom s last ls ++ ofLinesFrom [] none rest
  | [], s, last => ofLinesFrom_blank h s last rest
  | l :: ls, s, last => by
      have ih := ofLinesFrom_append_blank h rest ls
      rw [List.cons_append, ofLinesFrom, ofLinesFrom]
      cases classify l with
      | blank => rw [ih, List.append_assoc]
      | continuation text => cases last <;> exact ih _ _
      | field name value => exact ih _ _
      | other => exact ih _ _

theorem ofLinesFrom_blanks {blanks : List (List Char)}
    (h : ∀ line ∈ blanks, Text.isBlankText line = true) (rest : List (List Char)) :
    ofLinesFrom [] none (blanks ++ rest) = ofLinesFrom [] none rest := by
  induction blanks with
  | nil => rfl
  | cons line blanks ih =>
      obtain ⟨hline, hblanks⟩ := List.forall_mem_cons.mp h
      rw [List.cons_append, ofLinesFrom_blank hline, ih hblanks]
      rfl

/-- A line feed at the end says nothing. -/
theorem ofText_concat_lineFeed (text : List Char) : ofText (text ++ ['\n']) = ofText text := by
  rcases Text.map_lines_concat_lineFeed classify_dropReturn text with h | h
  · exact ofLinesFrom_congr h [] none
  · have hlines : (Text.lines (text ++ ['\n'])).map classify =
        (Text.lines text ++ [[]]).map classify := by
      rw [h, List.map_append]
      rfl
    rw [ofText, ofLinesFrom_congr hlines, ofLinesFrom_append_blank rfl]
    exact List.append_nil _

theorem isBlankText_of_mem_lines_concat {gap line : List Char} (h : Text.isBlankText gap = true)
    (hline : line ∈ Text.lines (gap ++ ['\n'])) : Text.isBlankText line = true := by
  refine Text.isBlankText_of_mem_lines ?_ line hline
  rw [Text.isBlankText, List.all_append, Bool.and_eq_true]
  exact ⟨h, by decide⟩

/-- Blank lines in front say nothing. -/
theorem ofText_blank_append {gap : List Char} (h : Text.isBlankText gap = true) (b : List Char) :
    ofText (gap ++ '\n' :: b) = ofText b := by
  rw [ofText, Text.lines_append_lineFeed,
    ofLinesFrom_blanks fun _ => isBlankText_of_mem_lines_concat h]
  rfl

/-- Two line feeds with nothing but blanks between them separate stanzas. -/
theorem ofText_append_feeds {gap : List Char} (h : Text.isBlankText gap = true) (a b : List Char) :
    ofText (a ++ '\n' :: (gap ++ '\n' :: b)) = ofText a ++ ofText b := by
  have hblank : ∀ line ∈ Text.lines (gap ++ ['\n']), Text.isBlankText line = true :=
    fun _ => isBlankText_of_mem_lines_concat h
  obtain ⟨line, blanks, hlines⟩ := List.exists_cons_of_ne_nil
    (Text.lines_ne_nil (List.append_ne_nil_of_right_ne_nil gap (List.cons_ne_nil '\n' [])))
  rw [hlines] at hblank
  obtain ⟨hline, hblanks⟩ := List.forall_mem_cons.mp hblank
  rw [ofText, Text.lines_append_lineFeed, Text.lines_append_lineFeed gap, hlines,
    List.cons_append, ofLinesFrom_append_blank hline, ofLinesFrom_blanks hblanks]
  exact congrArg (· ++ ofText b) (ofText_concat_lineFeed a)

/-- A blank line separates stanzas: it stands behind a line that was ended or at the beginning, or
ends the line before it itself. -/
theorem ofText_append {a gap : List Char} (h : Text.isBlankText gap = true)
    (hline : a = [] ∨ a.getLast? = some '\n' ∨ gap.head? = some '\n') (b : List Char) :
    ofText (a ++ gap ++ '\n' :: b) = ofText a ++ ofText b := by
  rcases hline with rfl | ha | hgap
  · exact ofText_blank_append h b
  · obtain ⟨front, rfl⟩ := List.getLast?_eq_some_iff.mp ha
    rw [ofText_concat_lineFeed, ← ofText_append_feeds h]
    simp
  · obtain ⟨rest, rfl⟩ := List.head?_eq_some_iff.mp hgap
    rw [Text.isBlankText, List.all_cons, Bool.and_eq_true] at h
    rw [List.append_assoc, List.cons_append, ofText_append_feeds h.2]

end Stanza

namespace StatusDatabase

/-- Two documents with a blank line between them hold the packages of the first and then those of
the second, and as many malformed stanzas as both together. A blank line is one of blanks alone,
however many of them; it stands behind a line feed or at the beginning, or starts with one. -/
theorem findings_isolated (a gap b : List Char) (osId : Option String)
    (hgap : Text.isBlankText gap = true)
    (hline : a = [] ∨ a.getLast? = some '\n' ∨ gap.head? = some '\n') :
    (findings (a ++ gap ++ '\n' :: b) osId).packages =
        (findings a osId).packages ++ (findings b osId).packages ∧
      (findings (a ++ gap ++ '\n' :: b) osId).malformed =
        (findings a osId).malformed + (findings b osId).malformed := by
  simp only [findings, Stanza.ofText_append hgap hline, List.map_append, List.filterMap_append,
    List.count_append, and_self]

/-- A document that ends in the middle of a line, with a carriage return, and one that starts with a
continuation of nothing and lacks a version. -/
theorem findings_isolated_cut_short :
    let a := " x\njunk\nPackage: y\nPackage: bash\nStatus: hold ok installed\nVersion: 5.2\r".toList
    let gap := "\n \t\r".toList
    let b := " y\nPackage: tzdata\n\tVersion: 1\nStatus: install ok installed".toList
    Text.isBlankText gap = true ∧ gap.head? = some '\n' ∧
      (findings (a ++ gap ++ '\n' :: b) none).packages = (findings a none).packages ∧
      (findings a none).packages.map (·.version) = ["5.2"] ∧
      (findings (a ++ gap ++ '\n' :: b) none).malformed = 1 := by
  intro a gap b
  obtain ⟨hpackages, hmalformed⟩ :=
    findings_isolated a gap b none (by decide) (.inr (.inr (by decide)))
  refine ⟨by decide, by decide, hpackages.trans ?_, by decide +kernel, hmalformed.trans ?_⟩
  · rw [show (findings b none).packages = [] by decide +kernel, List.append_nil]
  · decide +kernel

end StatusDatabase

end HostInventory
