import HostInventory.Collection.Comparison

/-!
# Keys of package lists

An index has the keys of the list that it was made of, and a comparison finds something extra in a
list only where a key is missing in the other. So lists with the same keys have nothing extra,
whatever their order.
-/

namespace HostInventory

namespace Package.Index

theorem contains_insert (p : Package) (k : Key) :
    ∀ index : Index, (index.insert p).contains k = (p.key == k || index.contains k)
  | [] => by simp [insert, contains]
  | (k', q) :: rest => by
      unfold insert
      split
      · rename_i heq
        simp [contains, heq]
      · split
        · simp [contains]
        · have ih := contains_insert p k rest
          simp only [contains, List.any_cons] at ih ⊢
          rw [ih, ← Bool.or_assoc, ← Bool.or_assoc, Bool.or_comm (k' == k)]

theorem contains_foldl_insert (k : Key) :
    ∀ (ps : List Package) (index : Index),
      (ps.foldl (fun index p => insert p index) index).contains k =
        (index.contains k || ps.any (·.key == k))
  | [], index => by simp
  | p :: ps, index => by
      rw [List.foldl_cons, contains_foldl_insert k ps, contains_insert, List.any_cons,
        ← Bool.or_assoc, Bool.or_comm (p.key == k)]

/-- An index has the keys of its list. -/
theorem contains_ofList (ps : List Package) (k : Key) :
    (ofList ps).contains k = ps.any (·.key == k) := by
  rw [ofList, contains_foldl_insert]
  rfl

theorem without_eq_nil {index other : Index}
    (h : ∀ k, index.contains k = true → other.contains k = true) : index.without other = [] := by
  rw [without, List.map_eq_nil_iff, List.filter_eq_nil_iff]
  rintro ⟨k, p⟩ hmem
  have hk : index.contains k = true := List.any_eq_true.mpr ⟨(k, p), hmem, beq_self_eq_true k⟩
  simp [h k hk]

end Package.Index

namespace Comparison

/-- Lists of the same packages have nothing extra. -/
theorem ofLists_of_perm {legacy modern : List Package} (h : legacy.Perm modern) :
    (ofLists legacy modern).legacyExtra = [] ∧ (ofLists legacy modern).modernExtra = [] ∧
      (ofLists legacy modern).legacyCount = (ofLists legacy modern).modernCount := by
  have hkeys : ∀ k, (Package.Index.ofList legacy).contains k =
      (Package.Index.ofList modern).contains k := fun k => by
    rw [Package.Index.contains_ofList, Package.Index.contains_ofList, h.any_eq]
  refine ⟨Package.Index.without_eq_nil fun k hk => ?_, Package.Index.without_eq_nil fun k hk => ?_,
    h.length_eq⟩
  · rw [← hkeys]
    exact hk
  · rw [hkeys]
    exact hk

end Comparison

end HostInventory
