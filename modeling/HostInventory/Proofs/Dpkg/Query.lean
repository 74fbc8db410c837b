import Mathlib.Data.List.Basic
import HostInventory.Proofs.Dpkg.Database
import HostInventory.Proofs.Text.Utf8

/-!
# Reading what the query program prints

The template asks for an object of JSON with one member for each selector. As long as no value needs
an escape in JSON, what is printed for a row of values is an object of plain strings, which is read
back as the row (`ofJson?_plainValue`), and all lines together give the packages of the rows whose
status is `installed` (`parseInstalled_lines`). The values of an entry are of that kind, so that the
query program's listing of a database is a case of it (`parseInstalled_queryOutput`).
-/

namespace HostInventory.Dpkg

/-! ## The template -/

/-- Whether a character of a template is printed as it is, wherever it stands. -/
def isVerbatim (c : Char) : Bool :=
  c != '\\' && c != '$'

variable (value : List Char → List Char)

theorem printed_text {text : List Char} (h : text.all isVerbatim = true) (rest : List Char) :
    printed value none (text ++ rest) = text ++ printed value none rest := by
  induction text with
  | nil => rfl
  | cons c text ih =>
      simp only [List.all_cons, isVerbatim, Bool.and_eq_true, bne_iff_ne] at h
      obtain ⟨⟨hback, hdollar⟩, htext⟩ := h
      rw [List.cons_append, printed.eq_def]
      split
      · rename_i heq
        cases heq
      · rename_i heq _
        cases heq
      · rename_i heq
        exact absurd (List.cons.inj heq).1 hback
      · rename_i heq
        exact absurd (List.cons.inj heq).1 hdollar
      · rename_i heq
        obtain ⟨rfl, rfl⟩ := List.cons.inj heq
        rw [ih htext]
        rfl

theorem printed_selector {selector : List Char} (h : '\x7d' ∉ selector) (rest : List Char) :
    printed value none ('$' :: '\x7b' :: (selector ++ '\x7d' :: rest)) =
      value selector ++ printed value none rest := by
  have hselector : ∀ (more read : List Char), '\x7d' ∉ more →
      printed value (some read) (more ++ '\x7d' :: rest) =
        value (read.reverse ++ more) ++ printed value none rest := fun more => by
    induction more with
    | nil => intro read _; simp [printed]
    | cons c more ih =>
        intro read hmore
        obtain ⟨hc, hmore⟩ := not_or.mp (mt List.mem_cons.mpr hmore)
        rw [List.cons_append, printed, if_neg (Ne.symm hc), ih _ hmore]
        simp
  rw [printed, hselector selector [] h]
  rfl

/-- Each member of the template is printed as a member of an object. -/
theorem printed_fieldTemplate {name selector : String}
    (hname : name.toList.all isVerbatim = true) (hselector : '\x7d' ∉ selector.toList)
    (rest : List Char) :
    printed value none ((fieldTemplate name ("$\x7b" ++ selector ++ "\x7d")).toList ++ rest) =
      Json.plainMember (name.toList, value selector.toList) ++ printed value none rest := by
  have htext : (fieldTemplate name ("$\x7b" ++ selector ++ "\x7d")).toList ++ rest =
      (Json.plainString name.toList ++ [':', '"']) ++
        '$' :: '\x7b' :: (selector.toList ++ '\x7d' :: (['"'] ++ rest)) := by
    simp [fieldTemplate, Json.plainString]
  have hquoted : (Json.plainString name.toList ++ [':', '"']).all isVerbatim = true := by
    have hmarks : isVerbatim '"' = true ∧ isVerbatim ':' = true := by decide
    simp [Json.plainString, hname, hmarks]
  rw [htext, printed_text value hquoted, printed_selector value hselector,
    printed_text value (by decide : ['"'].all isVerbatim = true)]
  simp [Json.plainMember, Json.plainString]

/-- The names of the members in their order in the template, and the selector for each. -/
def members : List (String × String) := [
  ("architecture", "Architecture"), ("package", "Package"), ("source_name", "source:Package"),
  ("source_version", "source:Version"), ("status", "db:Status-Status"), ("version", "Version")]

theorem sortTexts_fields :
    sortTexts (fields.map fun (name, selector) => fieldTemplate name selector) =
      members.map fun m => fieldTemplate m.1 ("$\x7b" ++ m.2 ++ "\x7d") := by
  decide +kernel

theorem joinWith_eq_intercalate (mark : List Char) :
    ∀ pieces : List (List Char), Text.joinWith mark pieces = mark.intercalate pieces
  | [] => rfl
  | [piece] => List.intercalate_singleton.symm
  | piece :: next :: rest => by
      rw [Text.joinWith, joinWith_eq_intercalate mark (next :: rest), List.intercalate_cons_cons,
        List.append_assoc]
      exact List.cons_ne_nil next rest

theorem toList_template :
    (template fields).toList = ['\\', '\x7b'] ++ (Text.joinWith [','] (members.map fun m =>
      (fieldTemplate m.1 ("$\x7b" ++ m.2 ++ "\x7d")).toList) ++ ['\\', '\x7d', '\n']) := by
  rw [template, sortTexts_fields, joinWith_eq_intercalate]
  simp only [String.toList_append, String.toList_intercalate, List.map_map, List.append_assoc]
  rfl

theorem printed_members (rest : List Char) :
    ∀ ms : List (String × String),
      (∀ m ∈ ms, m.1.toList.all isVerbatim = true ∧ '\x7d' ∉ m.2.toList) →
      printed value none (Text.joinWith [','] (ms.map fun m =>
          (fieldTemplate m.1 ("$\x7b" ++ m.2 ++ "\x7d")).toList) ++ rest) =
        Text.joinWith [','] (ms.map fun m => Json.plainMember (m.1.toList, value m.2.toList)) ++
          printed value none rest
  | [], _ => rfl
  | [m], h => by
      obtain ⟨hname, hselector⟩ := h m (List.mem_singleton.mpr rfl)
      exact printed_fieldTemplate value hname hselector rest
  | m :: next :: ms, h => by
      obtain ⟨⟨hname, hselector⟩, hrest⟩ := List.forall_mem_cons.mp h
      have hcomma := printed_text value (by decide : [','].all isVerbatim = true)
      simp only [List.map_cons, Text.joinWith, List.append_assoc] at *
      rw [printed_fieldTemplate value hname hselector, hcomma]
      have ih := printed_members rest (next :: ms) hrest
      simp only [List.map_cons] at ih
      rw [ih]

/-- The line that is printed for the template is an object with the selected values. -/
theorem printed_template :
    printed value none (template fields).toList =
      Json.plainObject (members.map fun m => (m.1.toList, value m.2.toList)) ++ ['\n'] := by
  have hmembers : ∀ m ∈ members, m.1.toList.all isVerbatim = true ∧ '\x7d' ∉ m.2.toList := by
    decide
  rw [toList_template, List.cons_append, List.cons_append, List.nil_append, printed,
    printed_members value _ members hmembers, Json.plainObject, List.map_map]
  simp [printed, Function.comp_def]

/-! ## One line -/

namespace Row

def select (r : Row) (selector : List Char) : List Char :=
  (([("Package".toList, r.package), ("Architecture".toList, r.architecture),
      ("Version".toList, r.version), ("db:Status-Status".toList, r.status),
      ("source:Package".toList, r.sourceName),
      ("source:Version".toList, r.sourceVersion)].lookup selector).map String.toList).getD []

/-- Whether no value needs an escape in JSON: none has a quote, a backslash or a character below the
space. -/
def IsPlain (r : Row) : Prop :=
  ∀ value ∈ [r.package, r.architecture, r.version, r.status, r.sourceName, r.sourceVersion],
    ∀ c ∈ value.toList, Json.isPlain c = true

/-- The members of the line that is printed for a row. -/
def members (r : Row) : List (List Char × List Char) :=
  Dpkg.members.map fun m => (m.1.toList, r.select m.2.toList)

/-- The line that is printed for a row, without the line feed behind it. -/
def line (r : Row) : List Char :=
  Json.plainObject r.members

def installed? (r : Row) : Option Package :=
  if r.status = "installed" then some r.toPackage else none

theorem members_eq (r : Row) : r.members =
    [("architecture".toList, r.architecture.toList), ("package".toList, r.package.toList),
      ("source_name".toList, r.sourceName.toList),
      ("source_version".toList, r.sourceVersion.toList), ("status".toList, r.status.toList),
      ("version".toList, r.version.toList)] :=
  rfl

theorem membersPlain {r : Row} (h : r.IsPlain) : Json.MembersPlain r.members := by
  have hnames : ∀ m ∈ Dpkg.members, m.1.toList.all Json.isPlain = true := by decide
  have hvalues : ∀ member ∈ r.members, ∃ value ∈ [r.package, r.architecture, r.version, r.status,
      r.sourceName, r.sourceVersion], member.2 = value.toList := by
    simp [members_eq]
  intro member hmember
  obtain ⟨m, hm, rfl⟩ := List.mem_map.mp hmember
  obtain ⟨value, hvalue, heq⟩ := hvalues _ hmember
  exact ⟨List.all_eq_true.mp (hnames m hm), fun c hc => h value hvalue c (heq ▸ hc)⟩

/-- The line of a row is read as the row. -/
theorem ofJson?_plainValue (r : Row) : Row.ofJson? (Json.plainValue r.members) = some r := by
  have hread : Row.ofJson? (Json.plainValue r.members) =
      some ⟨String.ofList r.package.toList, String.ofList r.architecture.toList,
        String.ofList r.version.toList, String.ofList r.status.toList,
        String.ofList r.sourceName.toList, String.ofList r.sourceVersion.toList⟩ := by
    rw [members_eq]
    rfl
  simpa only [String.ofList_toList] using hread

/-- The line of a row says its package if it is installed. -/
theorem readLine_line {r : Row} (h : r.IsPlain) :
    (readLine (Text.dropReturn r.line)).package? = r.installed? := by
  have hlast : r.line.getLast? = some '\x7d' := by
    rw [line, Json.plainObject, ← List.cons_append, List.getLast?_concat]
  have htrimmed : Text.IsTrimmed r.line :=
    ⟨fun c hc => by cases hc; decide, fun c hc => by rw [hlast] at hc; cases hc; decide⟩
  have hparse : Json.parse? (String.ofList r.line) = some (Json.plainValue r.members) :=
    Json.parse?_plainObject (by simp [members_eq]) (membersPlain h)
  rw [Text.dropReturn_of_getLast? (by rw [hlast]; decide), readLine,
    Text.trim_of_isTrimmed htrimmed]
  dsimp only
  rw [hparse, Option.bind_some, ofJson?_plainValue]
  dsimp only
  rw [if_neg (by simp [line, Json.plainObject]), installed?]
  split <;> rfl

end Row

/-! ## All lines -/

/-- The lines of rows give the packages of those that are installed. -/
theorem parseInstalled_lines {rows : List Row} (h : ∀ r ∈ rows, r.IsPlain) :
    parseInstalled (Utf8.encode (String.ofList ((rows.map Row.line).flatMap (· ++ ['\n'])))) =
      rows.filterMap Row.installed? := by
  have hlines : ∀ line ∈ rows.map Row.line, '\n' ∉ line := by
    intro line hline
    obtain ⟨r, hr, rfl⟩ := List.mem_map.mp hline
    exact Json.not_mem_plainObject (Row.membersPlain (h r hr)) (by decide) (by decide)
  rw [parseInstalled, readings, Utf8.lossyChars_encode, String.toList_ofList,
    Text.lines_flatMap hlines]
  simp only [List.map_map, List.filterMap_map, Function.comp_def]
  exact List.filterMap_congr fun r hr => Row.readLine_line (h r hr)

/-! ## Entries -/

namespace Entry

/-- The line that is printed for an entry, without the line feed behind it. -/
def line (e : Entry) : List Char :=
  Json.plainObject (members.map fun m => (m.1.toList, e.select m.2.toList))

def row (e : Entry) : Row where
  package := String.ofList e.package.chars
  architecture := String.ofList e.architecture.chars
  version := String.ofList e.version.chars
  status := String.ofList e.status.chars
  sourceName := String.ofList e.sourceName.chars
  sourceVersion := String.ofList e.sourceVersion.chars

theorem line_row (e : Entry) : e.row.line = e.line := by
  refine congrArg Json.plainObject (List.map_congr_left fun m hm => ?_)
  simp only [members, List.mem_cons, List.not_mem_nil, or_false] at hm
  rcases hm with rfl | rfl | rfl | rfl | rfl | rfl <;>
    exact congrArg (Prod.mk _) String.toList_ofList

theorem isPlain_row (e : Entry) : e.row.IsPlain := by
  have hword : ∀ w : Word, ∀ c ∈ (String.ofList w.chars).toList, Json.isPlain c = true := by
    intro w
    rw [String.toList_ofList]
    exact w.plain
  intro value hvalue
  simp only [row, List.mem_cons, List.not_mem_nil, or_false] at hvalue
  rcases hvalue with rfl | rfl | rfl | rfl | rfl | rfl <;> exact hword _

theorem installed?_row (e : Entry) : e.row.installed? = e.installed? := by
  have hstatus : String.ofList e.status.chars = "installed" ↔
      e.status.chars = "installed".toList := by
    rw [← String.toList_inj, String.toList_ofList]
  rw [Row.installed?, installed?]
  simp only [row, hstatus]
  rfl

end Entry

theorem queryOutput_eq (es : List Entry) :
    queryOutput es = (es.map Entry.line).flatMap (· ++ ['\n']) := by
  rw [List.flatMap_map]
  exact congrArg (es.flatMap ·) (funext fun e => printed_template e.select)

/-- What the query program prints gives the packages of the entries that are installed. -/
theorem parseInstalled_queryOutput (es : List Entry) :
    parseInstalled (Utf8.encode (String.ofList (queryOutput es))) =
      es.filterMap Entry.installed? := by
  have hplain : ∀ r ∈ es.map Entry.row, r.IsPlain := by
    intro r hr
    obtain ⟨e, -, rfl⟩ := List.mem_map.mp hr
    exact e.isPlain_row
  have hlines : es.map Entry.line = (es.map Entry.row).map Row.line := by
    rw [List.map_map]
    exact congrArg (es.map ·) (funext fun e => e.line_row.symm)
  rw [queryOutput_eq, hlines, parseInstalled_lines hplain, List.filterMap_map]
  exact congrArg (es.filterMap ·) (funext Entry.installed?_row)

end HostInventory.Dpkg
