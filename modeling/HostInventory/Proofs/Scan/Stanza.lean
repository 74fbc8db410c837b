import HostInventory.Proofs.Text.Cut
import HostInventory.Scan.Stanza

/-!
# Reading written stanzas

A document that was written stanza by stanza and field by field is read as these stanzas, each with
the fields that it was written with (`ofText_document`). What a field then is, is a matter of its
name alone: other fields of the stanza, before it or after it, have no influence on it
(`get?_foldl_add`).
-/

namespace HostInventory.Stanza

/-! ## Written fields -/

/-- Whether a line continues the field of the line before it. A line of nothing but blanks does
not, since it ends the stanza. -/
structure IsContinuation (line : List Char) : Prop where
  indented : line.head? = some ' ' ∨ line.head? = some '\t'
  shown : Text.isBlankText line = false
  oneLine : '\n' ∉ line

/-- Whether a text can be the name of a field. -/
structure IsFieldName (name : List Char) : Prop where
  ne_nil : name ≠ []
  trimmed : Text.IsTrimmed name
  noColon : ':' ∉ name
  oneLine : '\n' ∉ name

/-- A field as a document has it: a name, what stands behind the colon, and lines that continue
it. -/
structure WrittenField where
  name : List Char
  first : List Char
  more : List (List Char)
  isName : IsFieldName name
  oneLine : '\n' ∉ first
  continues : ∀ line ∈ more, IsContinuation line

namespace WrittenField

def lines (f : WrittenField) : List (List Char) :=
  (f.name ++ ':' :: f.first) :: f.more

end WrittenField

/-- A document of stanzas, a blank line behind each. -/
def document (stanzas : List (List WrittenField)) : List Char :=
  (stanzas.flatMap fun fs => fs.flatMap WrittenField.lines ++ [[]]).flatMap (· ++ ['\n'])

/-- The stanza with one more field that is written behind it. -/
def add (s : Stanza) (f : WrittenField) : Stanza :=
  f.more.foldl (fun s line => s.extend f.name (Text.trim line)) (s.set f.name (Text.trim f.first))

/-- Whether lines hold stanzas: the lines of each field behind one another, any number of blank
lines before the first stanza and behind the last, and at least one between two stanzas. -/
inductive Laid : List (List WrittenField) → List (List Char) → Prop
  | nil : Laid [] []
  | blank {stanzas : List (List WrittenField)} {line : List Char} {ls : List (List Char)}
      (h : Text.isBlankText line = true) (hrest : Laid stanzas ls) : Laid stanzas (line :: ls)
  | last (fs : List WrittenField) : Laid [fs] (fs.flatMap WrittenField.lines)
  | stanza (fs : List WrittenField) {stanzas : List (List WrittenField)} {line : List Char}
      {ls : List (List Char)} (h : Text.isBlankText line = true) (hrest : Laid stanzas ls) :
      Laid (fs :: stanzas) (fs.flatMap WrittenField.lines ++ line :: ls)

/-! ## Lines -/

theorem WrittenField.oneLine_of_mem {f : WrittenField} {line : List Char} (h : line ∈ f.lines) :
    '\n' ∉ line := by
  rcases List.mem_cons.mp h with rfl | h
  · simp only [List.mem_append, List.mem_cons, not_or]
    exact ⟨f.isName.oneLine, by decide, f.oneLine⟩
  · exact (f.continues line h).oneLine

theorem classify_of_isBlankText {line : List Char} (h : Text.isBlankText line = true) :
    classify line = .blank := by
  unfold classify
  rw [if_pos h]

theorem classify_indented {c : Char} {rest : List Char} (hc : c = ' ' ∨ c = '\t')
    (hshown : Text.isBlankText (c :: rest) = false) :
    classify (c :: rest) = .continuation (Text.trim (c :: rest)) := by
  unfold classify
  rw [if_neg (by simp [hshown])]
  rcases hc with rfl | rfl <;> rfl

theorem classify_flush {c : Char} {rest : List Char} (hspace : c ≠ ' ') (htab : c ≠ '\t')
    (hshown : Text.isBlankText (c :: rest) = false) :
    classify (c :: rest) =
      ((Text.cutAt? (· == ':') (c :: rest)).map fun (name, value) =>
        Line.field (Text.trim name) (Text.trim value)).getD .other := by
  unfold classify
  rw [if_neg (by simp [hshown])]
  split
  · rename_i heq
    exact absurd (List.cons.inj heq).1 hspace
  · rename_i heq
    exact absurd (List.cons.inj heq).1 htab
  · cases Text.cutAt? (· == ':') (c :: rest) <;> rfl

theorem classify_fieldLine (f : WrittenField) :
    classify (f.name ++ ':' :: f.first) = .field f.name (Text.trim f.first) := by
  have hcut : Text.cutAt? (· == ':') (f.name ++ ':' :: f.first) = some (f.name, f.first) := by
    refine Text.cutAt?_append (fun x hx => ?_) rfl _
    exact beq_eq_false_iff_ne.mpr fun he => f.isName.noColon (he ▸ hx)
  have htrim := Text.trim_of_isTrimmed f.isName.trimmed
  obtain ⟨c, rest, hname⟩ := List.exists_cons_of_ne_nil f.isName.ne_nil
  have hc : Text.isBlank c = false := f.isName.trimmed.head c (by rw [hname]; rfl)
  rw [hname, List.cons_append] at hcut ⊢
  rw [classify_flush (fun he => by rw [he] at hc; cases hc) (fun he => by rw [he] at hc; cases hc)
    (by simp [Text.isBlankText, hc]), hcut]
  rw [hname] at htrim
  simp [htrim]

theorem classify_continuation {line : List Char} (h : IsContinuation line) :
    classify line = .continuation (Text.trim line) := by
  cases line with
  | nil => rcases h.indented with h | h <;> cases h
  | cons c rest =>
      exact classify_indented (h.indented.imp Option.some.inj Option.some.inj) h.shown

/-- What a line is does not depend on a carriage return at its end. -/
theorem classify_dropReturn (line : List Char) :
    classify (Text.dropReturn line) = classify line := by
  by_cases hlast : line.getLast? = some '\r'
  · obtain ⟨front, rfl⟩ := List.getLast?_eq_some_iff.mp hlast
    have hreturn : Text.isBlank '\r' = true := by decide
    have hdrop : Text.dropReturn (front ++ ['\r']) = front := by simp [Text.dropReturn]
    have hblank := Text.isBlankText_dropReturn (front ++ ['\r'])
    rw [hdrop] at hblank ⊢
    cases hshown : Text.isBlankText front with
    | true => rw [classify_of_isBlankText hshown, classify_of_isBlankText (hblank ▸ hshown)]
    | false =>
        have hne : front ≠ [] := by
          rintro rfl
          cases hshown
        obtain ⟨c, rest, rfl⟩ := List.exists_cons_of_ne_nil hne
        -- the first character decides, and the return stands behind it
        rw [hshown, List.cons_append] at hblank
        by_cases hc : c = ' ' ∨ c = '\t'
        · rw [classify_indented hc hshown, List.cons_append, classify_indented hc hblank.symm,
            ← List.cons_append, Text.trim_concat hreturn]
        · obtain ⟨hspace, htab⟩ := not_or.mp hc
          rw [classify_flush hspace htab hshown, List.cons_append,
            classify_flush hspace htab hblank.symm, ← List.cons_append,
            Text.cutAt?_concat (p := (· == ':')) (c := '\r') (by decide)]
          cases Text.cutAt? (· == ':') (c :: rest) with
          | none => rfl
          | some cut => simp [Text.trim_concat hreturn]
  · rw [Text.dropReturn_of_getLast? hlast]

/-! ## Reading -/

/-- Reading heeds nothing of a line but what it is. -/
theorem ofLinesFrom_congr {ls ls' : List (List Char)} (h : ls.map classify = ls'.map classify)
    (s : Stanza) (last : Option (List Char)) : ofLinesFrom s last ls = ofLinesFrom s last ls' := by
  induction ls generalizing ls' s last with
  | nil =>
      obtain rfl := List.map_eq_nil_iff.mp h.symm
      rfl
  | cons line ls ih =>
      obtain ⟨line', rest, rfl, hline, hrest⟩ := List.map_eq_cons_iff.mp h.symm
      have ih := fun s last => ih hrest.symm s last
      rw [ofLinesFrom, ofLinesFrom, hline]
      cases classify line with
      | blank => exact congrArg (finished s ++ ·) (ih [] none)
      | continuation text => cases last <;> exact ih _ _
      | field name value => exact ih _ _
      | other => exact ih _ _

theorem ofLinesFrom_blank {line : List Char} (h : Text.isBlankText line = true) (s : Stanza)
    (last : Option (List Char)) (rest : List (List Char)) :
    ofLinesFrom s last (line :: rest) = finished s ++ ofLinesFrom [] none rest := by
  rw [ofLinesFrom, classify_of_isBlankText h]

theorem ofLinesFrom_more {name : List Char} (rest : List (List Char)) :
    ∀ (more : List (List Char)) (s : Stanza), (∀ line ∈ more, IsContinuation line) →
      ofLinesFrom s (some name) (more ++ rest) =
        ofLinesFrom (more.foldl (fun s line => s.extend name (Text.trim line)) s) (some name) rest
  | [], _, _ => rfl
  | line :: more, s, h => by
      obtain ⟨hline, hmore⟩ := List.forall_mem_cons.mp h
      rw [List.cons_append, ofLinesFrom, classify_continuation hline]
      exact ofLinesFrom_more rest more _ hmore

theorem ofLinesFrom_field (f : WrittenField) (s : Stanza) (last : Option (List Char))
    (rest : List (List Char)) :
    ofLinesFrom s last (f.lines ++ rest) = ofLinesFrom (s.add f) (some f.name) rest := by
  rw [WrittenField.lines, List.cons_append, ofLinesFrom, classify_fieldLine]
  exact ofLinesFrom_more rest f.more _ f.continues

theorem ofLinesFrom_fields (rest : List (List Char)) :
    ∀ (fs : List WrittenField) (s : Stanza) (last : Option (List Char)),
      ∃ last', ofLinesFrom s last (fs.flatMap WrittenField.lines ++ rest) =
        ofLinesFrom (fs.foldl add s) last' rest
  | [], s, last => ⟨last, rfl⟩
  | f :: fs, s, last => by
      rw [List.flatMap_cons, List.append_assoc, ofLinesFrom_field]
      exact ofLinesFrom_fields rest fs _ _

theorem set_ne_nil (s : Stanza) (name value : List Char) : s.set name value ≠ [] := by
  cases s with
  | nil => exact nofun
  | cons f s =>
      unfold set
      split <;> exact nofun

theorem extend_ne_nil {s : Stanza} (h : s ≠ []) (name line : List Char) :
    s.extend name line ≠ [] := by
  cases s with
  | nil => exact absurd rfl h
  | cons f s =>
      unfold extend
      split <;> exact nofun

theorem add_ne_nil (s : Stanza) (f : WrittenField) : s.add f ≠ [] := by
  have hmore : ∀ (more : List (List Char)) {t : Stanza}, t ≠ [] →
      more.foldl (fun s line => s.extend f.name (Text.trim line)) t ≠ [] := fun more => by
    induction more with
    | nil => exact fun h => h
    | cons line more ih => exact fun h => ih (extend_ne_nil h _ _)
  exact hmore f.more (set_ne_nil s _ _)

theorem foldl_add_ne_nil {fs : List WrittenField} (h : fs ≠ []) (s : Stanza) :
    fs.foldl add s ≠ [] := by
  induction fs generalizing s with
  | nil => exact absurd rfl h
  | cons f fs ih =>
      cases fs with
      | nil => exact add_ne_nil s f
      | cons g fs => exact ih (by simp) (s.add f)

/-- Lines that hold stanzas are read as these. -/
theorem ofLinesFrom_laid {stanzas : List (List WrittenField)} {ls : List (List Char)}
    (h : Laid stanzas ls) (hne : ∀ fs ∈ stanzas, fs ≠ []) :
    ofLinesFrom [] none ls = stanzas.map (·.foldl add []) := by
  have hfinished : ∀ {fs : List WrittenField}, fs ≠ [] →
      finished (fs.foldl add []) = [fs.foldl add []] := fun {fs} hfs => by
    rw [finished, if_neg (by simpa using foldl_add_ne_nil hfs [])]
  induction h with
  | nil => rfl
  | blank h _ ih => rw [ofLinesFrom_blank h, ih hne]; rfl
  | last fs =>
      obtain ⟨last', hread⟩ := ofLinesFrom_fields [] fs [] none
      rw [List.append_nil] at hread
      rw [hread, ofLinesFrom, hfinished (hne fs (List.mem_singleton.mpr rfl))]
      rfl
  | stanza fs h _ ih =>
      obtain ⟨hfs, hstanzas⟩ := List.forall_mem_cons.mp hne
      obtain ⟨last', hread⟩ := ofLinesFrom_fields _ fs [] none
      rw [hread, ofLinesFrom_blank h, hfinished hfs, ih hstanzas]
      rfl

/-- A text whose lines hold stanzas is read as these, whichever line ends it has. -/
theorem ofText_of_laid {stanzas : List (List WrittenField)} {ls : List (List Char)}
    {text : List Char} (hl : Laid stanzas ls) (ht : Text.HasLines ls text)
    (hne : ∀ fs ∈ stanzas, fs ≠ []) : ofText text = stanzas.map (·.foldl add []) := by
  rw [ofText, ofLinesFrom_congr (ht.map_lines classify_dropReturn)]
  exact ofLinesFrom_laid hl hne

theorem laid_document (stanzas : List (List WrittenField)) :
    Laid stanzas (stanzas.flatMap fun fs => fs.flatMap WrittenField.lines ++ [[]]) := by
  induction stanzas with
  | nil => exact .nil
  | cons fs stanzas ih =>
      rw [List.flatMap_cons, List.append_assoc]
      exact .stanza fs rfl ih

/-- A written document is read as its stanzas. -/
theorem ofText_document {stanzas : List (List WrittenField)} (h : ∀ fs ∈ stanzas, fs ≠ []) :
    ofText (document stanzas) = stanzas.map (·.foldl add []) := by
  refine ofText_of_laid (laid_document stanzas) (Text.hasLines_flatMap fun line hl => ?_) h
  obtain ⟨fs, -, hl⟩ := List.mem_flatMap.mp hl
  rcases List.mem_append.mp hl with hl | hl
  · obtain ⟨f, -, hl⟩ := List.mem_flatMap.mp hl
    exact WrittenField.oneLine_of_mem hl
  · rw [List.mem_singleton.mp hl]
    exact List.not_mem_nil

/-! ## Values -/

@[simp] theorem get?_set_self (s : Stanza) (name value : List Char) :
    (s.set name value).get? name = some value := by
  induction s with
  | nil => simp [set, get?]
  | cons f s ih =>
      obtain ⟨key, old⟩ := f
      by_cases hf : key = name
      · simp [set, get?, hf]
      · have hb : (name == key) = false := beq_eq_false_iff_ne.mpr (Ne.symm hf)
        simp only [set, get?, hf, if_false, List.lookup_cons, hb] at ih ⊢
        exact ih

theorem get?_set_of_ne (s : Stanza) {name other : List Char} (value : List Char)
    (h : other ≠ name) : (s.set name value).get? other = s.get? other := by
  have hb : (other == name) = false := beq_eq_false_iff_ne.mpr h
  induction s with
  | nil => simp [set, get?, List.lookup_cons, hb]
  | cons f s ih =>
      obtain ⟨key, old⟩ := f
      by_cases hf : key = name
      · simp [set, get?, hf, List.lookup_cons, hb]
      · simp only [set, get?, hf, if_false, List.lookup_cons] at ih ⊢
        split
        · rfl
        · exact ih

theorem get?_extend_of_ne (s : Stanza) {name other : List Char} (line : List Char)
    (h : other ≠ name) : (s.extend name line).get? other = s.get? other := by
  have hb : (other == name) = false := beq_eq_false_iff_ne.mpr h
  induction s with
  | nil => rfl
  | cons f s ih =>
      obtain ⟨key, old⟩ := f
      by_cases hf : key = name
      · simp [extend, get?, hf, List.lookup_cons, hb]
      · simp only [extend, get?, hf, if_false, List.lookup_cons] at ih ⊢
        split
        · rfl
        · exact ih

theorem get?_add_of_ne (s : Stanza) {f : WrittenField} {name : List Char} (h : name ≠ f.name) :
    (s.add f).get? name = s.get? name := by
  have hmore : ∀ (more : List (List Char)) (t : Stanza),
      (more.foldl (fun s line => s.extend f.name (Text.trim line)) t).get? name = t.get? name :=
    fun more => by
      induction more with
      | nil => exact fun _ => rfl
      | cons line more ih => exact fun t => (ih _).trans (get?_extend_of_ne t _ h)
  exact (hmore f.more _).trans (get?_set_of_ne s _ h)

theorem get?_add_self (s : Stanza) {f : WrittenField} (h : f.more = []) :
    (s.add f).get? f.name = some (Text.trim f.first) := by
  rw [add, h]
  exact get?_set_self s _ _

theorem get?_foldl_add_of_filter_eq_nil {name : List Char} :
    ∀ {fs : List WrittenField} (s : Stanza), fs.filter (·.name == name) = [] →
      (fs.foldl add s).get? name = s.get? name
  | [], _, _ => rfl
  | f :: fs, s, h => by
      rw [List.filter_cons] at h
      split at h
      · cases h
      · rename_i hf
        have hne : name ≠ f.name := fun he => hf (by simp [he])
        exact (get?_foldl_add_of_filter_eq_nil (s.add f) h).trans (get?_add_of_ne s hne)

/-- The value of a field that is written once in a stanza, on one line. -/
theorem get?_foldl_add {name : List Char} {f : WrittenField} (hmore : f.more = []) :
    ∀ {fs : List WrittenField} (s : Stanza), fs.filter (·.name == name) = [f] →
      (fs.foldl add s).get? name = some (Text.trim f.first)
  | [], _, h => by cases h
  | g :: fs, s, h => by
      rw [List.filter_cons] at h
      split at h
      · rename_i hg
        obtain ⟨rfl, hnil⟩ := List.cons.inj h
        obtain rfl := beq_iff_eq.mp hg
        exact (get?_foldl_add_of_filter_eq_nil (s.add g) hnil).trans (get?_add_self s hmore)
      · exact get?_foldl_add hmore (s.add g) h

end HostInventory.Stanza
