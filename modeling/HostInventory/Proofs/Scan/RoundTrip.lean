import Mathlib.Data.List.Forall2
import HostInventory.Proofs.Scan.Stanza

/-!
# Stanzas are read as they were meant

A stanza is meant as fields with values of several lines; there are many ways to write it. Its
fields may stand in any order, each line of a value may stand behind blanks, the lines of a value
after the first behind a space or a tab, blank lines may stand around the stanzas, and the lines may
end in either way. Whichever way is taken, what is read is what was meant: the same stanzas in the
same order, each with the same fields (`ofText_of_written`).

Reading goes field by field. A name that was not there before puts a field behind the others
(`add_of_not_mem`), so that a stanza without repeated names is read as its fields one after the
other (`foldl_add_of_nodup`), and the value of each is found by its name (`get?_of_mem`).
-/

namespace HostInventory.Stanza

/-! ## What is meant -/

/-- Whether a text can be a line of a value. -/
structure IsValueLine (line : List Char) : Prop where
  trimmed : Text.IsTrimmed line
  oneLine : '\n' ∉ line

/-- A field with the lines of its value; only the first of them may be empty. -/
structure Field where
  name : List Char
  first : List Char
  more : List (List Char)
  isName : IsFieldName name
  isFirst : IsValueLine first
  isMore : ∀ line ∈ more, line ≠ [] ∧ IsValueLine line

namespace Field

/-- The lines of the value with a line feed between each two. -/
def value (f : Field) : List Char :=
  Text.joinWith ['\n'] (f.first :: f.more)

def entry (f : Field) : List Char × List Char :=
  (f.name, f.value)

end Field

/-- The fields of a stanza, each of another name. -/
structure Content where
  fields : List Field
  ne_nil : fields ≠ []
  distinct : (fields.map Field.name).Nodup

/-! ## How it is written -/

/-- Whether a written field is one that is meant: its lines are those of the value, each behind some
blanks. -/
structure WrittenField.Spells (w : WrittenField) (f : Field) : Prop where
  name : w.name = f.name
  first : ∃ pad, Text.isBlankText pad = true ∧ w.first = pad ++ f.first
  more : List.Forall₂ (fun line text => ∃ pad, Text.isBlankText pad = true ∧ line = pad ++ text)
    w.more f.more

/-- Whether written fields are those of a stanza, in any order. -/
def Content.IsWrittenAs (c : Content) (fs : List WrittenField) : Prop :=
  ∃ order : List Field, order.Perm c.fields ∧ List.Forall₂ WrittenField.Spells fs order

/-- A field as it is usually written: the first line of the value after a blank behind the colon,
each further line behind a space or a tab. -/
def Field.written (f : Field) (indent : Char) (h : indent = ' ' ∨ indent = '\t') :
    WrittenField where
  name := f.name
  first := ' ' :: f.first
  more := f.more.map (indent :: ·)
  isName := f.isName
  oneLine := by simp [f.isFirst.oneLine]
  continues := by
    intro line hline
    obtain ⟨text, htext, rfl⟩ := List.mem_map.mp hline
    obtain ⟨hne, hvalue⟩ := f.isMore text htext
    obtain ⟨c, rest, rfl⟩ := List.exists_cons_of_ne_nil hne
    have hc : Text.isBlank c = false := hvalue.trimmed.head c rfl
    have hfeed : '\n' ∉ c :: rest := hvalue.oneLine
    refine ⟨h.imp (congrArg some) (congrArg some), by simp [Text.isBlankText, hc], ?_⟩
    rcases h with rfl | rfl <;> simpa using hfeed

theorem Field.spells_written (f : Field) {indent : Char} (h : indent = ' ' ∨ indent = '\t') :
    (f.written indent h).Spells f where
  name := rfl
  first := ⟨[' '], by decide, rfl⟩
  more := by
    have hindent : Text.isBlankText [indent] = true := by rcases h with rfl | rfl <;> decide
    refine List.forall₂_map_left_iff.mpr (List.forall₂_same.mpr fun text _ => ?_)
    exact ⟨[indent], hindent, rfl⟩

/-- The name of a written field and the value that is read for it. -/
def WrittenField.entry (w : WrittenField) : List Char × List Char :=
  (w.name, Text.joinWith ['\n'] (Text.trim w.first :: w.more.map Text.trim))

theorem IsValueLine.trim_append {pad text : List Char} (h : IsValueLine text)
    (hpad : Text.isBlankText pad = true) : Text.trim (pad ++ text) = text := by
  rw [Text.trim_append hpad, Text.trim_of_isTrimmed h.trimmed]

/-- Blanks in front of a line are not read. -/
theorem WrittenField.Spells.entry_eq {w : WrittenField} {f : Field} (h : w.Spells f) :
    w.entry = f.entry := by
  have hfirst : Text.trim w.first = f.first := by
    obtain ⟨pad, hpad, heq⟩ := h.first
    rw [heq, f.isFirst.trim_append hpad]
  have hlines : ∀ {lines texts : List (List Char)},
      List.Forall₂ (fun line text => ∃ pad, Text.isBlankText pad = true ∧ line = pad ++ text)
        lines texts → (∀ text ∈ texts, text ≠ [] ∧ IsValueLine text) →
      lines.map Text.trim = texts := by
    intro lines texts hall
    induction hall with
    | nil => exact fun _ => rfl
    | cons hline _ ih =>
        intro htexts
        obtain ⟨pad, hpad, rfl⟩ := hline
        obtain ⟨⟨-, htext⟩, hrest⟩ := List.forall_mem_cons.mp htexts
        rw [List.map_cons, htext.trim_append hpad, ih hrest]
  rw [WrittenField.entry, h.name, hfirst, hlines h.more f.isMore]
  rfl

theorem Content.IsWrittenAs.ne_nil {c : Content} {fs : List WrittenField} (h : c.IsWrittenAs fs) :
    fs ≠ [] := by
  rintro rfl
  obtain ⟨order, hperm, hspells⟩ := h
  obtain rfl := List.forall₂_nil_left_iff.mp hspells
  exact c.ne_nil (List.nil_perm.mp hperm)

/-! ## Adding fields -/

theorem set_of_not_mem {s : Stanza} {name : List Char} (h : name ∉ s.map Prod.fst)
    (value : List Char) : s.set name value = s ++ [(name, value)] := by
  induction s with
  | nil => rfl
  | cons f s ih =>
      obtain ⟨hne, hs⟩ := not_or.mp (mt List.mem_cons.mpr h)
      rw [set, if_neg (Ne.symm hne), ih hs, List.cons_append]

theorem extend_concat {s : Stanza} {name : List Char} (h : name ∉ s.map Prod.fst)
    (value line : List Char) :
    extend (s ++ [(name, value)]) name line = s ++ [(name, value ++ '\n' :: line)] := by
  induction s with
  | nil => simp [extend]
  | cons f s ih =>
      obtain ⟨hne, hs⟩ := not_or.mp (mt List.mem_cons.mpr h)
      rw [List.cons_append, extend, if_neg (Ne.symm hne), ih hs, List.cons_append]

/-- A field whose name is new stands behind the others, with all lines of its value. -/
theorem add_of_not_mem {s : Stanza} {w : WrittenField} (h : w.name ∉ s.map Prod.fst) :
    s.add w = s ++ [w.entry] := by
  have hmore : ∀ (more : List (List Char)) (value : List Char),
      more.foldl (fun s line => s.extend w.name (Text.trim line)) (s ++ [(w.name, value)]) =
        s ++ [(w.name, Text.joinWith ['\n'] (value :: more.map Text.trim))] := by
    intro more
    induction more with
    | nil => exact fun value => rfl
    | cons line more ih =>
        intro value
        rw [List.foldl_cons, extend_concat h, ih]
        -- the first two lines count as one from here on
        cases more <;> simp [Text.joinWith]
  rw [add, set_of_not_mem h, hmore]
  rfl

theorem foldl_add_of_nodup {ws : List WrittenField} (s : Stanza)
    (h : (s.map Prod.fst ++ ws.map WrittenField.name).Nodup) :
    ws.foldl add s = s ++ ws.map WrittenField.entry := by
  induction ws generalizing s with
  | nil => rw [List.map_nil, List.append_nil]; rfl
  | cons w ws ih =>
      have hw : w.name ∉ s.map Prod.fst := fun hmem =>
        (List.nodup_append.mp h).2.2 _ hmem _ List.mem_cons_self rfl
      have hrest : ((s ++ [w.entry]).map Prod.fst ++ ws.map WrittenField.name).Nodup := by
        rw [List.map_append, List.append_assoc]
        exact h
      rw [List.foldl_cons, add_of_not_mem hw, ih _ hrest, List.append_assoc]
      rfl

theorem get?_of_mem {s : Stanza} {name value : List Char} (hs : (s.map Prod.fst).Nodup)
    (h : (name, value) ∈ s) : s.get? name = some value := by
  induction s with
  | nil => cases h
  | cons f s ih =>
      obtain ⟨key, other⟩ := f
      obtain ⟨hkey, hnodup⟩ := List.nodup_cons.mp hs
      rcases List.mem_cons.mp h with heq | hmem
      · obtain ⟨rfl, rfl⟩ := Prod.mk.inj heq
        simp [get?]
      · have hne : (name == key) = false :=
          beq_eq_false_iff_ne.mpr fun he => hkey (List.mem_map.mpr ⟨_, hmem, he⟩)
        simp only [get?, List.lookup_cons, hne]
        exact ih hnodup hmem

/-! ## Reading back -/

/-- The stanza that is read for written fields has the fields that are meant. -/
theorem Content.IsWrittenAs.read {c : Content} {fs : List WrittenField} (h : c.IsWrittenAs fs) :
    (fs.foldl add []).Perm (c.fields.map Field.entry) ∧
      ∀ f ∈ c.fields, (fs.foldl add []).get? f.name = some f.value := by
  obtain ⟨order, hperm, hspells⟩ := h
  have hentries : fs.map WrittenField.entry = order.map Field.entry := by
    rw [← List.forall₂_eq_eq_eq, List.forall₂_map_left_iff, List.forall₂_map_right_iff]
    exact hspells.imp fun _ _ h => h.entry_eq
  have hfst : ∀ fields : List Field, (fields.map Field.entry).map Prod.fst =
      fields.map Field.name := by simp [Function.comp_def, Field.entry]
  have hnames : fs.map WrittenField.name = order.map Field.name := by
    rw [← hfst, ← hentries, List.map_map]
    rfl
  have hnodup : (order.map Field.name).Nodup := (hperm.map _).nodup_iff.mpr c.distinct
  have hread : fs.foldl add [] = order.map Field.entry := by
    rw [foldl_add_of_nodup [] (by rw [hnames]; exact hnodup), hentries]
    rfl
  rw [hread]
  refine ⟨hperm.map _, fun f hf => ?_⟩
  refine get?_of_mem (by rw [hfst]; exact hnodup) ?_
  exact List.mem_map.mpr ⟨f, hperm.mem_iff.mpr hf, rfl⟩

/-- Stanzas are read as they were meant, whichever way they were written: in order, none lost and
none added, each with exactly its fields, a value being its lines with line feeds between them. -/
theorem ofText_of_written {contents : List Content} {written : List (List WrittenField)}
    {ls : List (List Char)} {text : List Char}
    (hw : List.Forall₂ Content.IsWrittenAs contents written) (hl : Laid written ls)
    (ht : Text.HasLines ls text) :
    List.Forall₂ (fun (s : Stanza) (c : Content) => s.Perm (c.fields.map Field.entry) ∧
      ∀ f ∈ c.fields, s.get? f.name = some f.value) (ofText text) contents := by
  have hne : ∀ fs ∈ written, fs ≠ [] := by
    clear hl
    induction hw with
    | nil => exact nofun
    | cons h _ ih => exact List.forall_mem_cons.mpr ⟨h.ne_nil, ih⟩
  rw [ofText_of_laid hl ht hne, List.forall₂_map_left_iff]
  exact hw.flip.imp fun _ _ h => Content.IsWrittenAs.read h

def sampleName : Field where
  name := "Package".toList
  first := "bash".toList
  more := []
  isName := ⟨by decide, Text.isTrimmed_of_any_eq_false (by decide), by decide, by decide⟩
  isFirst := ⟨Text.isTrimmed_of_any_eq_false (by decide), by decide⟩
  isMore := nofun

/-- A field whose value starts with an empty line and has a colon in the next one. -/
def sampleNote : Field where
  name := "Conffiles".toList
  first := []
  more := ["/etc:x".toList]
  isName := ⟨by decide, Text.isTrimmed_of_any_eq_false (by decide), by decide, by decide⟩
  isFirst := ⟨Text.isTrimmed_of_any_eq_false rfl, by decide⟩
  isMore := List.forall_mem_singleton.mpr
    ⟨by decide, Text.isTrimmed_of_any_eq_false (by decide), by decide⟩

/-- Two stanzas with line ends of both kinds, the fields of the first in another order and no line
end behind the second. -/
theorem ofText_of_written_mixed :
    let first : Content := ⟨[sampleName, sampleNote], by decide, by decide⟩
    let second : Content := ⟨[sampleName], by decide, by decide⟩
    let written := [[sampleNote.written '\t' (by decide), sampleName.written ' ' (by decide)],
      [sampleName.written ' ' (by decide)]]
    let ls := ["Conffiles: ".toList, "\t/etc:x".toList, "Package: bash".toList, " ".toList,
      "Package: bash".toList]
    let text := "Conffiles: \r\n\t/etc:x\nPackage: bash\r\n \r\nPackage: bash".toList
    (List.Forall₂ Content.IsWrittenAs [first, second] written ∧ Laid written ls ∧
        Text.HasLines ls text) ∧
      List.Forall₂ (fun (s : Stanza) (c : Content) => s.Perm (c.fields.map Field.entry) ∧
        ∀ f ∈ c.fields, s.get? f.name = some f.value) (ofText text) [first, second] := by
  intro first second written ls text
  have hw : List.Forall₂ Content.IsWrittenAs [first, second] written := by
    refine .cons ⟨[sampleNote, sampleName], .swap _ _ _, ?_⟩
      (.cons ⟨[sampleName], .refl _, ?_⟩ .nil)
    · exact .cons (sampleNote.spells_written _) (.cons (sampleName.spells_written _) .nil)
    · exact .cons (sampleName.spells_written _) .nil
  have hl : Laid written ls := .stanza _ (by decide) (.last _)
  have ht : Text.HasLines ls text := by
    refine .carriageReturn (by decide) (.lineFeed (by decide) (.carriageReturn (by decide)
      (.carriageReturn (by decide) (.unended (by decide) (by decide)))))
  exact ⟨⟨hw, hl, ht⟩, ofText_of_written hw hl ht⟩

end HostInventory.Stanza
