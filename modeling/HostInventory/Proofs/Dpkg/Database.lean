import HostInventory.Proofs.Json.PlainObject
import HostInventory.Proofs.Scan.Stanza
import HostInventory.Provider.Dpkg
import HostInventory.Scan.Status

/-!
# The database of dpkg and its two listings

What dpkg knows of a package can be read in two ways: from the document in which dpkg keeps its
database, and from what its query program prints. An `Entry` is what is known, `Written` is an entry
with its fields in the order in which the document has them, and `queryOutput` is what the query
program prints for entries, given the template that this library asks with.

The query program is not part of this library. What is assumed of it is `printed`: a selector is
replaced by the value that it selects, as it is, and a backslash stands before a brace.
-/

namespace HostInventory.Dpkg

/-! ## Words -/

/-- Whether a character is one of those that names, versions, architectures and the words of a
status are made of. -/
def isWordChar (c : Char) : Bool :=
  c.isAlphanum || ['+', '-', '.', ':', '~', '_'].contains c

/-- A name, a version, an architecture or a word of a status. -/
structure Word where
  chars : List Char
  ne_nil : chars ≠ []
  isWord : chars.all isWordChar = true

theorem bounds_of_isWordChar {c : Char} (h : isWordChar c = true) :
    0x2B ≤ c.toNat ∧ c.toNat ≤ 0x7E ∧ c.toNat ≠ 0x5C := by
  simp only [isWordChar, Bool.or_eq_true, List.contains_iff_mem] at h
  rcases h with h | h
  · have hn : c.toNat = c.val.toNat := rfl
    delta Char.isAlphanum Char.isAlpha Char.isUpper Char.isLower Char.isDigit at h
    simp only [Bool.or_eq_true, Bool.and_eq_true, decide_eq_true_eq, ge_iff_le,
      UInt32.le_iff_toNat_le, Char.reduceVal, UInt32.reduceToNat] at h
    omega
  · simp only [List.mem_cons, List.not_mem_nil, or_false] at h
    rcases h with rfl | rfl | rfl | rfl | rfl | rfl <;> decide

theorem isBlank_of_isWordChar {c : Char} (h : isWordChar c = true) : Text.isBlank c = false := by
  obtain ⟨hlow, hhigh, -⟩ := bounds_of_isWordChar h
  simp only [Text.isBlank, Bool.or_eq_false_iff, Bool.and_eq_false_iff, decide_eq_false_iff_not,
    beq_eq_false_iff_ne]
  omega

theorem isPlain_of_isWordChar {c : Char} (h : isWordChar c = true) : Json.isPlain c = true := by
  obtain ⟨hlow, hhigh, hne⟩ := bounds_of_isWordChar h
  simp only [Json.isPlain, Bool.and_eq_true, bne_iff_ne, decide_eq_true_eq]
  refine ⟨⟨?_, ?_⟩, by omega⟩
  · rintro rfl
    revert hlow
    decide
  · rintro rfl
    exact hne rfl

namespace Word

variable (w : Word)

theorem isWordChar_of_mem {c : Char} (h : c ∈ w.chars) : isWordChar c = true :=
  List.all_eq_true.mp w.isWord c h

theorem not_blank : ∀ c ∈ w.chars, Text.isBlank c = false :=
  fun _ hc => isBlank_of_isWordChar (w.isWordChar_of_mem hc)

theorem plain : ∀ c ∈ w.chars, Json.isPlain c = true :=
  fun _ hc => isPlain_of_isWordChar (w.isWordChar_of_mem hc)

theorem not_mem {c : Char} (h : isWordChar c = false) : c ∉ w.chars := fun hc => by
  rw [w.isWordChar_of_mem hc] at h
  cases h

end Word

/-! ## Entries -/

/-- The names of the fields that are read. -/
def readNames : List String :=
  ["Package", "Status", "Architecture", "Version", "Source"]

/-- What the database has of a package. The status is in three words, the last of which says whether
the package is installed; without a source the package is its own source, and without a version the
source has that of the package. -/
structure Entry where
  package : Word
  want : Word
  flag : Word
  status : Word
  architecture : Word
  version : Word
  source : Option (Word × Option Word)
  others : List Stanza.WrittenField
  others_unread : ∀ f ∈ others, ∀ name ∈ readNames, f.name ≠ name.toList

namespace Entry

def sourceName (e : Entry) : Word :=
  match e.source with
  | some (name, _) => name
  | none => e.package

def sourceVersion (e : Entry) : Word :=
  match e.source with
  | some (_, some version) => version
  | _ => e.version

def record (e : Entry) : Package :=
  (Package.ofFields (String.ofList e.package.chars) (String.ofList e.architecture.chars)
    (String.ofList e.version.chars)).withSource (String.ofList e.sourceName.chars)
      (String.ofList e.sourceVersion.chars)

def installed? (e : Entry) : Option Package :=
  if e.status.chars = "installed".toList then some e.record else none

end Entry

/-! ## The document -/

theorem isFieldName_of_readNames {name : String} (h : name ∈ readNames) :
    Stanza.IsFieldName name.toList := by
  have hchars : ∀ name ∈ readNames, name.toList ≠ [] ∧ ':' ∉ name.toList ∧ '\n' ∉ name.toList ∧
      name.toList.any Text.isBlank = false := by
    decide
  obtain ⟨hne, hcolon, hline, hblank⟩ := hchars name h
  exact ⟨hne, Text.isTrimmed_of_any_eq_false hblank, hcolon, hline⟩

/-- A field on one line, a blank before its value. -/
def field (name : String) (value : List Char) (hname : name ∈ readNames) (hvalue : '\n' ∉ value) :
    Stanza.WrittenField where
  name := name.toList
  first := ' ' :: value
  more := []
  isName := isFieldName_of_readNames hname
  oneLine := by simp [hvalue]
  continues := nofun

def wordField (name : String) (w : Word) (hname : name ∈ readNames) : Stanza.WrittenField :=
  field name w.chars hname (w.not_mem (by decide))

/-- The text of a source: its name, and its version in parentheses if there is one. -/
def sourceText : Word × Option Word → List Char
  | (name, none) => name.chars
  | (name, some version) => name.chars ++ ' ' :: '(' :: (version.chars ++ [')'])

theorem oneLine_sourceText (source : Word × Option Word) : '\n' ∉ sourceText source := by
  obtain ⟨name, version⟩ := source
  have hname : '\n' ∉ name.chars := name.not_mem (by decide)
  cases version with
  | none => exact hname
  | some version =>
      have hversion : '\n' ∉ version.chars := version.not_mem (by decide)
      simp [sourceText, hname, hversion]

namespace Entry

def statusText (e : Entry) : List Char :=
  e.want.chars ++ ' ' :: (e.flag.chars ++ ' ' :: e.status.chars)

theorem oneLine_statusText (e : Entry) : '\n' ∉ e.statusText := by
  have hword : ∀ w : Word, '\n' ∉ w.chars := fun w => w.not_mem (by decide)
  simp [statusText, hword]

/-- The field for the source, if there is one. -/
def sourceField? (e : Entry) : Option Stanza.WrittenField :=
  e.source.map fun source =>
    field "Source" (sourceText source) (by decide) (oneLine_sourceText source)

def fields (e : Entry) : List Stanza.WrittenField :=
  [wordField "Package" e.package (by decide),
    field "Status" e.statusText (by decide) e.oneLine_statusText,
    wordField "Architecture" e.architecture (by decide),
    wordField "Version" e.version (by decide)] ++ e.sourceField?.toList ++ e.others

end Entry

/-- An entry with its fields in some order. -/
structure Written where
  entry : Entry
  fields : List Stanza.WrittenField
  perm : fields.Perm entry.fields

/-- The document in which dpkg keeps its database. -/
def statusDocument (db : List Written) : List Char :=
  Stanza.document (db.map Written.fields)

/-! ## The query program -/

/-- What the query program prints for a template, given the values that selectors select; the
selector that is being read is collected in reverse so far. -/
def printed (value : List Char → List Char) : Option (List Char) → List Char → List Char
  | _, [] => []
  | some selector, c :: rest =>
    if c = '\x7d' then value selector.reverse ++ printed value none rest
    else printed value (some (c :: selector)) rest
  | none, '\\' :: c :: rest => c :: printed value none rest
  | none, '$' :: '\x7b' :: rest => printed value (some []) rest
  | none, c :: rest => c :: printed value none rest

def Entry.select (e : Entry) (selector : List Char) : List Char :=
  (([("Package".toList, e.package), ("Architecture".toList, e.architecture),
      ("Version".toList, e.version), ("db:Status-Status".toList, e.status),
      ("source:Package".toList, e.sourceName),
      ("source:Version".toList, e.sourceVersion)].lookup selector).map Word.chars).getD []

def queryOutput (es : List Entry) : List Char :=
  es.flatMap fun e => printed e.select none (template fields).toList

end HostInventory.Dpkg
