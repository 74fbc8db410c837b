import HostInventory.Extraction.Basic
import HostInventory.Proofs.Dpkg.Database

/-!
# Reading the document in which dpkg keeps its database

A stanza is asked for five fields by name. Each of them is written once and on one line, and no
other field has its name, so that the order of the fields makes no difference: what a field is can
be read off the entry (`get?_stanza`). From there on an entry goes through the scan and the
extraction on its own, and a document gives the packages of the entries that are installed
(`packages_statusDocument`).
-/

namespace HostInventory.Dpkg

open StatusDatabase (readStanza readSource isInstalled)

/-! ## Fields by name -/

theorem filter_others (e : Entry) {name : String} (h : name ∈ readNames) :
    e.others.filter (·.name == name.toList) = [] :=
  List.filter_eq_nil_iff.mpr fun f hf he => e.others_unread f hf name h (beq_iff_eq.mp he)

/-- Only the fields that are made from an entry can have a name that is read. -/
theorem filter_fields (e : Entry) {name : String} (h : name ∈ readNames) :
    e.fields.filter (·.name == name.toList) =
      ([wordField "Package" e.package (by decide),
        field "Status" e.statusText (by decide) e.oneLine_statusText,
        wordField "Architecture" e.architecture (by decide),
        wordField "Version" e.version (by decide)] ++ e.sourceField?.toList).filter
          (·.name == name.toList) := by
  rw [Entry.fields, List.filter_append, filter_others e h, List.append_nil]

namespace Written

variable (w : Written)

/-- The stanza that is read for an entry. -/
def stanza : Stanza :=
  w.fields.foldl Stanza.add []

theorem fields_ne_nil : w.fields ≠ [] := fun h => by
  have hlen := w.perm.length_eq
  simp [h, Entry.fields] at hlen

/-- The value of a field that an entry has once, wherever it is written. -/
theorem get?_stanza {name : String} {value : List Char} {hname : name ∈ readNames}
    {hvalue : '\n' ∉ value} (htrimmed : Text.IsTrimmed value)
    (h : w.entry.fields.filter (·.name == name.toList) = [field name value hname hvalue]) :
    w.stanza.get? name.toList = some value := by
  have hperm := w.perm.filter (·.name == name.toList)
  rw [h, List.perm_singleton] at hperm
  rw [stanza, Stanza.get?_foldl_add rfl [] hperm]
  exact congrArg some ((Text.trim_cons (by decide) value).trans (Text.trim_of_isTrimmed htrimmed))

theorem get?_stanza_of_absent {name : String}
    (h : w.entry.fields.filter (·.name == name.toList) = []) :
    w.stanza.get? name.toList = none := by
  have hperm := w.perm.filter (·.name == name.toList)
  rw [h, List.perm_nil] at hperm
  exact Stanza.get?_foldl_add_of_filter_eq_nil [] hperm

end Written

/-! ## Their values -/

theorem Word.isTrimmed (w : Word) : Text.IsTrimmed w.chars :=
  Text.isTrimmed_of_all_not w.not_blank

theorem isTrimmed_statusText (e : Entry) : Text.IsTrimmed e.statusText := by
  have h := Text.isTrimmed_append e.want.ne_nil e.want.isTrimmed (' ' :: (e.flag.chars ++ [' ']))
    e.status.ne_nil e.status.isTrimmed
  simpa [Entry.statusText] using h

theorem isTrimmed_sourceText (source : Word × Option Word) :
    Text.IsTrimmed (sourceText source) := by
  obtain ⟨name, version⟩ := source
  cases version with
  | none => exact name.isTrimmed
  | some version =>
      have hclose : Text.IsTrimmed [')'] := Text.isTrimmed_of_any_eq_false (by decide)
      have h := Text.isTrimmed_append name.ne_nil name.isTrimmed (' ' :: '(' :: version.chars)
        (by simp) hclose
      simpa [sourceText] using h

/-- Of the three words of a status the last decides. -/
theorem isInstalled_statusText (e : Entry) :
    isInstalled e.statusText = (e.status.chars == "installed".toList) := by
  have hblank : Text.isBlank ' ' = true := by decide
  rw [isInstalled, Entry.statusText, Text.words_append e.want.ne_nil e.want.not_blank hblank,
    Text.words_append e.flag.ne_nil e.flag.not_blank hblank,
    Text.words_of_all_not e.status.ne_nil e.status.not_blank]

/-- A source is read as what it was written from. -/
theorem readSource_sourceText (name : Word) (version : Option Word) :
    readSource (sourceText (name, version)) = (name.chars, version.map Word.chars) := by
  have hopen : ∀ w : Word, ∀ c ∈ w.chars, (c == '(') = false := fun w c hc =>
    beq_eq_false_iff_ne.mpr fun he => w.not_mem (c := '(') (by decide) (he ▸ hc)
  cases version with
  | none =>
      rw [sourceText, readSource, Text.cutAt?_of_all_not (hopen name)]
      exact congrArg (·, none) (Text.trim_of_isTrimmed name.isTrimmed)
  | some version =>
      have hclose : ∀ c, version.chars.getLast? = some c → (c == ')') = false := fun c hc =>
        beq_eq_false_iff_ne.mpr fun he =>
          version.not_mem (c := ')') (by decide) (he ▸ List.mem_of_mem_getLast? hc)
      have htext : sourceText (name, some version) =
          (name.chars ++ [' ']) ++ '(' :: (version.chars ++ [')']) := by
        simp [sourceText]
      have hname : ∀ c ∈ name.chars ++ [' '], (c == '(') = false := fun c hc => by
        rcases List.mem_append.mp hc with hc | hc
        · exact hopen name c hc
        · rw [List.mem_singleton.mp hc]
          decide
      rw [htext, readSource, Text.cutAt?_append hname (by decide)]
      dsimp only
      rw [Text.trim_concat (by decide), Text.trim_of_isTrimmed name.isTrimmed,
        Text.dropEndWhile_concat (by decide), Text.dropEndWhile_of_getLast? hclose,
        Text.trim_of_isTrimmed version.isTrimmed]
      rfl

namespace Written

variable (w : Written)

/-- The three fields of one word. -/
theorem get?_word {name : String} {word : Word}
    (h : (name, word) ∈ [("Package", w.entry.package), ("Architecture", w.entry.architecture),
      ("Version", w.entry.version)]) : w.stanza.get? name.toList = some word.chars := by
  have hfilter : ∃ hname, w.entry.fields.filter (·.name == name.toList) =
      [wordField name word hname] := by
    simp only [List.mem_cons, List.not_mem_nil, or_false, Prod.mk.injEq] at h
    rcases h with ⟨rfl, rfl⟩ | ⟨rfl, rfl⟩ | ⟨rfl, rfl⟩
    all_goals
      refine ⟨by decide, ?_⟩
      rw [filter_fields _ (by decide), Entry.sourceField?]
      cases w.entry.source <;> rfl
  obtain ⟨hname, hfilter⟩ := hfilter
  exact w.get?_stanza word.isTrimmed hfilter

theorem get?_status : w.stanza.get? "Status".toList = some w.entry.statusText := by
  have hname : "Status" ∈ readNames := by decide
  refine w.get?_stanza (isTrimmed_statusText w.entry)
    (?_ : _ = [field "Status" w.entry.statusText hname w.entry.oneLine_statusText])
  rw [filter_fields _ hname, Entry.sourceField?]
  cases w.entry.source <;> rfl

theorem get?_source : w.stanza.get? "Source".toList = w.entry.source.map sourceText := by
  have hname : "Source" ∈ readNames := by decide
  have hfilter := filter_fields w.entry hname
  rw [Entry.sourceField?] at hfilter
  cases hsource : w.entry.source with
  | none =>
      rw [hsource] at hfilter
      exact w.get?_stanza_of_absent hfilter
  | some source =>
      rw [hsource] at hfilter
      exact w.get?_stanza (isTrimmed_sourceText source) hfilter

end Written

/-! ## Entries -/

def Entry.scanned (osId : Option String) (e : Entry) : ScannedPackage where
  name := String.ofList e.package.chars
  version := String.ofList e.version.chars
  details := .dpkg {
    arch := String.ofList e.architecture.chars
    sourceName := String.ofList e.sourceName.chars
    sourceVersion := String.ofList e.sourceVersion.chars
    osId := osId }

theorem Written.sourceOf_stanza (w : Written) :
    StatusDatabase.sourceOf w.stanza w.entry.package.chars w.entry.version.chars =
      (w.entry.sourceName.chars, w.entry.sourceVersion.chars) := by
  rw [StatusDatabase.sourceOf, w.get?_source, Entry.sourceName, Entry.sourceVersion]
  rcases w.entry.source with _ | ⟨name, _ | version⟩
  · rfl
  · simp [readSource_sourceText]
  · simp [readSource_sourceText]

/-- A stanza says the package of its entry if that is installed, and nothing else. -/
theorem readStanza_stanza (osId : Option String) (w : Written) :
    readStanza osId w.stanza =
      if w.entry.status.chars = "installed".toList then .package (w.entry.scanned osId)
      else .absent := by
  have hpackage : w.stanza.get? "Package".toList = some w.entry.package.chars :=
    w.get?_word (by simp)
  have harchitecture : w.stanza.get? "Architecture".toList = some w.entry.architecture.chars :=
    w.get?_word (by simp)
  have hversion : w.stanza.get? "Version".toList = some w.entry.version.chars :=
    w.get?_word (by simp)
  rw [readStanza, w.get?_status, hpackage, harchitecture, hversion]
  simp only [Option.map_some, Option.getD_some, isInstalled_statusText, w.sourceOf_stanza]
  by_cases h : w.entry.status.chars = "installed".toList
  · rw [beq_iff_eq.mpr h, if_neg (by decide), if_pos h]
    rfl
  · rw [beq_eq_false_iff_ne.mpr h, if_pos (by decide), if_neg h]

/-! ## The document -/

theorem ofText_statusDocument (db : List Written) :
    Stanza.ofText (statusDocument db) = db.map Written.stanza := by
  have hne : ∀ fs ∈ db.map Written.fields, fs ≠ [] := fun fs hfs => by
    obtain ⟨w, -, rfl⟩ := List.mem_map.mp hfs
    exact w.fields_ne_nil
  rw [statusDocument, Stanza.ofText_document hne, List.map_map]
  rfl

/-- The scanned package of an entry that is installed. -/
def Entry.scanned? (osId : Option String) (e : Entry) : Option ScannedPackage :=
  if e.status.chars = "installed".toList then some (e.scanned osId) else none

/-- A document says which packages are installed, and nothing of it is malformed. -/
theorem findings_statusDocument (osId : Option String) (db : List Written) :
    StatusDatabase.findings (statusDocument db) osId =
      ⟨(db.map Written.entry).filterMap (Entry.scanned? osId), 0⟩ := by
  have hpackage : ∀ w : Written,
      (readStanza osId w.stanza).package? = w.entry.scanned? osId := fun w => by
    rw [readStanza_stanza, Entry.scanned?]
    split <;> rfl
  have hmalformed : StatusDatabase.Entry.malformed ∉ db.map fun w => readStanza osId w.stanza := by
    intro h
    obtain ⟨w, -, hw⟩ := List.mem_map.mp h
    rw [readStanza_stanza] at hw
    split at hw <;> cases hw
  rw [StatusDatabase.findings, ofText_statusDocument]
  simp only [List.map_map, List.filterMap_map, Function.comp_def, hpackage,
    List.count_eq_zero.mpr hmalformed]

/-! ## The extraction -/

/-- The extraction of scanned packages has the packages of the entries that are installed. -/
theorem packages_ofScanned (osId : Option String) (es : List Entry) :
    (Extraction.ofScanned (es.filterMap (Entry.scanned? osId)) none).packages =
      es.filterMap Entry.installed? := by
  have hentry : ∀ e : Entry, ((e.scanned? osId).bind fun p =>
      (InventoryItem.ofScanned p).toOption).map InventoryItem.toPackage = e.installed? :=
    fun e => by
      rw [Entry.scanned?, Entry.installed?]
      split <;> rfl
  rw [Extraction.packages, Extraction.ofScanned, Extraction.itemsOf, List.filterMap_filterMap,
    List.map_filterMap]
  simp only [hentry]

/-- The extraction of a document is complete and has the packages of the entries that are
installed. -/
theorem ofScan_statusDocument (root : String) (osId : Option String) (db : List Written) :
    ∃ extraction,
      Extraction.ofScan (StatusDatabase.summarize
        [(.dpkg root, .ok (StatusDatabase.findings (statusDocument db) osId))]) =
          .ok extraction ∧
      extraction.isComplete = true ∧
      extraction.packages = (db.map Written.entry).filterMap Entry.installed? := by
  rw [findings_statusDocument]
  refine ⟨_, rfl, rfl, ?_⟩
  rw [← packages_ofScanned osId, StatusDatabase.summarize, List.flatMap_singleton]

end HostInventory.Dpkg
