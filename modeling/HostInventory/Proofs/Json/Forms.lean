import HostInventory.Collection.Basic
import HostInventory.Command.Basic
import HostInventory.Extraction.Basic
import HostInventory.Proofs.Json.Compact

/-!
# Written forms

What has a written form is read back from it as it was: packages and their keys, the lists of the
managers, the names of managers and modes, the sources of a scan, the items and failures of an
inventory and what a command left. A list that is empty is left out of the form and read as empty.
-/

namespace HostInventory

namespace Json

def decode? {α : Type} (read : Json → Option α) (text : String) : Option α :=
  (parse? text).bind read

def encode {α : Type} (write : α → Json) (x : α) : String :=
  (write x).compact

/-- The text of what a text stands for. -/
def recode? {α : Type} (write : α → Json) (read : Json → Option α) (text : String) :
    Option String :=
  (decode? read text).map (encode write)

/-- What is written is read back as it was, and writing what was read settles the text. -/
structure RoundTrips {α : Type} (write : α → Json) (read : Json → Option α) : Prop where
  decode?_encode : ∀ x, decode? read (encode write x) = some x
  recode?_recoded : ∀ text written, recode? write read text = some written →
    recode? write read written = some written

/-- A written form is made of text, and its reader understands it. -/
structure Faithful {α : Type} (write : α → Json) (read : Json → Option α) : Prop where
  legible : ∀ x, (write x).Legible
  read_write : ∀ x, read (write x) = some x

theorem Faithful.roundTrips {α : Type} {write : α → Json} {read : Json → Option α}
    (h : Faithful write read) : RoundTrips write read := by
  have hdecode : ∀ x, decode? read (encode write x) = some x := fun x => by
    rw [decode?, encode, (h.legible x).parse?_compact, Option.bind_some, h.read_write]
  refine ⟨hdecode, fun text written hrecode => ?_⟩
  obtain ⟨x, -, rfl⟩ := Option.map_eq_some_iff.mp hrecode
  rw [recode?, hdecode, Option.map_some]

/-! ## Records and lists -/

theorem namedMembers?_record (members : List (String × Json)) :
    namedMembers? (members.map fun m => (some m.1, m.2)) = some members := by
  rw [namedMembers?, List.mapM_map]
  exact List.mapM_pure.trans (by rw [List.map_id']; rfl)

/-- The fields of a record with different names, each under its name. -/
theorem fields?_record (names : List String) {members : List (String × Json)}
    (h : (members.map Prod.fst).Nodup) :
    (record members).fields? names = some (names.map fun name => members.lookup name) := by
  rw [record, fields?, namedMembers?_record]
  exact Fields.ofMembers?_eq_lookup names h

/-- A list is written faithfully if its items are. -/
theorem Faithful.list {α : Type} {write : α → Json} {read : Json → Option α}
    (h : Faithful write read) :
    Faithful (fun xs => .array (xs.map write)) (toListOf? read) where
  legible xs := by
    refine .array fun j hj => ?_
    obtain ⟨x, -, rfl⟩ := List.mem_map.mp hj
    exact h.legible x
  read_write xs := by
    have hread : read ∘ write = some := funext h.read_write
    rw [toListOf?, List.mapM_map, hread]
    exact List.mapM_pure.trans (by rw [List.map_id']; rfl)

end Json

open Json

/-! ## Packages -/

theorem SourcePackage.faithful : Faithful toJson ofJson? where
  legible s := .record (by simp [Legible.text])
  read_write s := by
    rw [ofJson?, toJson, fields?_record _ (by simp)]
    simp [List.lookup_cons, toText?]

theorem Package.faithful : Faithful toJson ofJson? where
  legible p := .record (by simp [Legible.text, SourcePackage.faithful.legible])
  read_write p := by
    rw [ofJson?, toJson, fields?_record _ (by simp)]
    simp [List.lookup_cons, toText?, SourcePackage.faithful.read_write]

theorem Package.Key.faithful : Faithful toJson ofJson? where
  legible k := .record (by simp [Legible.text])
  read_write k := by
    rw [ofJson?, toJson, fields?_record _ (by simp)]
    simp [List.lookup_cons, toText?]

theorem Manager.faithful : Faithful toJson ofJson? where
  legible m := .text m.name
  read_write m := by simp [ofJson?, toJson, toName?, ofName?_name]

namespace PackageLists

theorem names_listMember_sublist (name : String) (ps : List Package) :
    ((listMember name ps).map Prod.fst).Sublist [name] := by
  cases ps with
  | nil => exact List.nil_sublist _
  | cons p ps => exact List.Sublist.refl _

theorem legible_of_mem_listMember {name : String} {ps : List Package} {m : String × Json}
    (h : m ∈ listMember name ps) : m.2.Legible := by
  cases ps with
  | nil => cases h
  | cons p ps =>
      obtain rfl := List.mem_singleton.mp h
      exact Package.faithful.list.legible (p :: ps)

theorem lookup_listMember (field name : String) (ps : List Package) :
    (listMember name ps).lookup field =
      if field = name ∧ ps ≠ [] then some (.array (ps.map Package.toJson)) else none := by
  cases ps with
  | nil => simp [listMember]
  | cons p ps => by_cases h : field = name <;> simp [listMember, h]

/-- A list that was left out is read as the empty list that it was. -/
theorem listOfJson?_given (ps : List Package) :
    listOfJson? (if ps = [] then none else some (.array (ps.map Package.toJson))) = some ps := by
  cases ps with
  | nil => rfl
  | cons p ps => exact Package.faithful.list.read_write (p :: ps)

theorem faithful : Faithful toJson ofJson? where
  legible lists := by
    refine .record fun m hm => ?_
    simp only [List.mem_append] at hm
    rcases hm with ((h | h) | h) | h <;> exact legible_of_mem_listMember h
  read_write lists := by
    have hnames : ((listMember "apt" lists.apt ++ listMember "deb" lists.deb ++
        listMember "rpm" lists.rpm ++ listMember "yum" lists.yum).map Prod.fst).Sublist
          ["apt", "deb", "rpm", "yum"] := by
      simp only [List.map_append]
      exact (((names_listMember_sublist _ _).append (names_listMember_sublist _ _)).append
        (names_listMember_sublist _ _)).append (names_listMember_sublist _ _)
    rw [ofJson?, toJson, fields?_record _ (hnames.nodup (by simp))]
    simp [List.lookup_append, lookup_listMember, listOfJson?_given]

end PackageLists

/-! ## Inventories -/

theorem ExtractionMode.faithful : Faithful toJson ofJson? where
  legible mode := .text mode.name
  read_write mode := by cases mode <;> rfl

/-- The form of a source is shallow and textual, so it can be kept until its kind is known. -/
theorem ScanSource.faithful : Faithful toJson ofJson? where
  legible source := .record (by cases source; simp [Legible.text])
  read_write source := by
    obtain ⟨root⟩ := source
    have htextual : (toJson (.dpkg root)).isTextual = true := rfl
    have hdepth : (toJson (.dpkg root)).depth = 1 := rfl
    rw [ofJson?, htextual, hdepth, if_neg (by decide), toJson, fields?_record _ (by simp)]
    simp [List.lookup_cons, toText?]

theorem InventoryItem.faithful : Faithful toJson ofJson? where
  legible item := .record (by simp [Legible.text, SourcePackage.faithful.legible])
  read_write item := by
    rw [ofJson?, toJson, fields?_record _ (by simp)]
    simp [List.lookup_cons, toText?, SourcePackage.faithful.read_write]

theorem CollectionFailure.faithful : Faithful toJson ofJson? where
  legible f := .record (by simp [Legible.text])
  read_write f := by
    rw [ofJson?, toJson, fields?_record _ (by simp)]
    simp [List.lookup_cons, toText?]

/-! ## Commands -/

theorem toNatBelow?_nat {n bound : Nat} (h : n < bound) : (nat n).toNatBelow? bound = some n := by
  simp [toNatBelow?, h]

theorem Duration.ofParts?_parts (d : Duration) :
    ofParts? d.secs.toNat d.nanos.val = some d := by
  have hnanos := d.nanos.isLt
  have hsecs : d.secs.toNat < Nat.pow 2 64 := d.secs.toNat_lt
  have hcarry : d.nanos.val / 1000000000 = 0 := Nat.div_eq_of_lt hnanos
  have hrest : d.nanos.val % 1000000000 = d.nanos.val := Nat.mod_eq_of_lt hnanos
  simp only [ofParts?, hcarry, hrest, Nat.add_zero, if_pos hsecs, UInt64.ofNat_toNat]

theorem Duration.ofJson?_record (secs nanos : Json) :
    ofJson? (.record [("secs", secs), ("nanos", nanos)]) =
      (secs.toNatBelow? (Nat.pow 2 64)).bind fun secs =>
        (nanos.toNatBelow? (Nat.pow 2 32)).bind fun nanos => ofParts? secs nanos := by
  unfold ofJson?
  rw [fields?_record _ (by simp)]
  simp [record, List.lookup_cons]

theorem Duration.faithful : Faithful toJson ofJson? where
  legible d := .record (by simp [Legible.number])
  read_write d := by
    have hsecs : d.secs.toNat < Nat.pow 2 64 := d.secs.toNat_lt
    have hnanos : d.nanos.val < Nat.pow 2 32 := Nat.lt_trans d.nanos.isLt (by decide)
    rw [toJson, ofJson?_record, toNatBelow?_nat hsecs, toNatBelow?_nat hnanos, Option.bind_some,
      Option.bind_some, ofParts?_parts]

theorem CommandOutput.octet_faithful :
    Faithful (fun octet : UInt8 => .nat octet.toNat) octetOfJson? where
  legible octet := .number _
  read_write octet := by
    rw [octetOfJson?, toNatBelow?_nat octet.toNat_lt]
    simp

theorem CommandOutput.faithful : Faithful toJson ofJson? where
  legible o := .record (by
    simp [octetsJson, octet_faithful.list.legible, Duration.faithful.legible])
  read_write o := by
    have hstdout := octet_faithful.list.read_write o.stdout
    have hstderr := octet_faithful.list.read_write o.stderr
    rw [ofJson?, toJson, fields?_record _ (by simp)]
    simp [List.lookup_cons, octetsJson, hstdout, hstderr, Duration.faithful.read_write]

/-- Every written form is read back as it was, and is a text that settles. -/
theorem forms_round_trip :
    RoundTrips Package.toJson Package.ofJson? ∧
    RoundTrips Package.Key.toJson Package.Key.ofJson? ∧
    RoundTrips SourcePackage.toJson SourcePackage.ofJson? ∧
    RoundTrips PackageLists.toJson PackageLists.ofJson? ∧
    RoundTrips InventoryItem.toJson InventoryItem.ofJson? ∧
    RoundTrips CollectionFailure.toJson CollectionFailure.ofJson? ∧
    RoundTrips ScanSource.toJson ScanSource.ofJson? ∧
    RoundTrips ExtractionMode.toJson ExtractionMode.ofJson? ∧
    RoundTrips Manager.toJson Manager.ofJson? ∧
    RoundTrips CommandOutput.toJson CommandOutput.ofJson? :=
  ⟨Package.faithful.roundTrips, Package.Key.faithful.roundTrips,
    SourcePackage.faithful.roundTrips, PackageLists.faithful.roundTrips,
    InventoryItem.faithful.roundTrips, CollectionFailure.faithful.roundTrips,
    ScanSource.faithful.roundTrips, ExtractionMode.faithful.roundTrips,
    Manager.faithful.roundTrips, CommandOutput.faithful.roundTrips⟩

end HostInventory
