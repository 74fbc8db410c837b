/-!
# Reading the fields of a record

A record is written either with its members under their names, in any order, or as a bare list of
values in the order of its fields. Both readings give one value per field, `none` where the field
is absent; what an absent field means is for the record to say.

A name that is no field is skipped, a field given twice is refused.
-/

namespace HostInventory.Fields

/-- The value of the only member with a name; refused when there are several. -/
def member? {α : Type} (name : String) (members : List (String × α)) : Option (Option α) :=
  match members.filter (·.1 == name) with
  | [] => some none
  | [(_, value)] => some (some value)
  | _ => none

/-- One value per field, from members in any order. -/
def ofMembers? {α : Type} (names : List String) (members : List (String × α)) :
    Option (List (Option α)) :=
  names.mapM fun name => member? name members

/-- One value per field, from values in the order of the fields; values beyond the last field are
left over. -/
def ofItems {α : Type} (names : List String) (items : List α) : List (Option α) × List α :=
  ((List.range names.length).map fun i => items[i]?, items.drop names.length)

/-! ## Members under their names -/

theorem mem_of_lookup {α : Type} {name : String} {value : α} {members : List (String × α)}
    (h : members.lookup name = some value) : (name, value) ∈ members := by
  obtain ⟨before, after, rfl, -⟩ := List.lookup_eq_some_iff.mp h
  exact List.mem_append_right _ List.mem_cons_self

theorem filter_name_eq_nil {α : Type} {name : String} {members : List (String × α)}
    (h : name ∉ members.map Prod.fst) : members.filter (·.1 == name) = [] := by
  rw [List.filter_eq_nil_iff]
  intro m hm heq
  exact h (List.mem_map.mpr ⟨m, hm, eq_of_beq heq⟩)

/-- Among different names the only member with a name is the first one. -/
theorem member?_eq_lookup {α : Type} (name : String) {members : List (String × α)}
    (h : (members.map Prod.fst).Nodup) : member? name members = some (members.lookup name) := by
  induction members with
  | nil => rfl
  | cons m members ih =>
      obtain ⟨hm, hmembers⟩ := List.nodup_cons.mp h
      rw [List.lookup_cons]
      split
      · rename_i heq
        obtain rfl : name = m.1 := eq_of_beq heq
        rw [member?, List.filter_cons_of_pos (by simp), filter_name_eq_nil hm]
      · rename_i hne
        rw [← ih hmembers, member?, member?,
          List.filter_cons_of_neg (by rw [BEq.comm, hne]; decide)]

theorem ofMembers?_eq_lookup {α : Type} (names : List String) {members : List (String × α)}
    (h : (members.map Prod.fst).Nodup) :
    ofMembers? names members = some (names.map fun name => members.lookup name) := by
  rw [ofMembers?]
  simp only [member?_eq_lookup _ h]
  exact List.mapM_pure

end HostInventory.Fields
