import HostInventory.Proofs.Text.Utf8

/-!
# The order of texts and of their octets

Texts are ordered by the code points of their characters. Written as UTF-8 they are in the same
order (`encode_lt_encode_iff`): a character with the smaller code point has the smaller octet where
its octets first differ from those of the other, and neither begins with the other.
-/

namespace HostInventory.Utf8

/-! ## One character -/

theorem cons_lt_cons_of_lt {m n : Nat} (h : m < n) (hn : n < 256) (xs ys : Octets) :
    UInt8.ofNat m :: xs < UInt8.ofNat n :: ys := by
  refine List.cons_lt_cons_iff.mpr (.inl (UInt8.lt_iff_toNat_lt.mpr ?_))
  rw [toNat_ofNat_of_lt (Nat.lt_trans h hn), toNat_ofNat_of_lt hn]
  exact h

theorem cons_lt_cons_of_le {m n : Nat} (h : m ≤ n) (hn : n < 256) {xs ys : Octets}
    (hs : m = n → xs < ys) : UInt8.ofNat m :: xs < UInt8.ofNat n :: ys := by
  rcases Nat.lt_or_eq_of_le h with hlt | rfl
  · exact cons_lt_cons_of_lt hlt hn xs ys
  · exact List.cons_lt_cons_iff.mpr (.inr ⟨rfl, hs rfl⟩)

/-- The first octet of a character tells how many there are. -/
theorem exists_lead (c : Char) :
    ∃ lead rest, String.utf8EncodeChar c = UInt8.ofNat lead :: rest ∧ lead < 256 ∧
      (0x7F < c.val.toNat → 0xC0 ≤ lead) ∧ (0x7FF < c.val.toNat → 0xE0 ≤ lead) ∧
      (0xFFFF < c.val.toNat → 0xF0 ≤ lead) := by
  unfold String.utf8EncodeChar
  simp only
  split
  · exact ⟨_, _, rfl, by omega, by omega, by omega, by omega⟩
  · split
    · exact ⟨_, _, rfl, by omega, by omega, by omega, by omega⟩
    · split
      · exact ⟨_, _, rfl, by omega, by omega, by omega, by omega⟩
      · exact ⟨_, _, rfl, by omega, by omega, by omega, by omega⟩

/-- Characters in order have octets in order, whatever follows them. -/
theorem encodeChar_append_lt {c d : Char} (h : c < d) (xs ys : Octets) :
    String.utf8EncodeChar c ++ xs < String.utf8EncodeChar d ++ ys := by
  have hlt : c.val.toNat < d.val.toNat := UInt32.lt_iff_toNat_lt.mp h
  have hmax : d.val.toNat < 0x110000 := by
    rcases toNat_lt d with hd | ⟨-, hd⟩
    · exact Nat.lt_trans hd (by decide)
    · exact hd
  obtain ⟨lead, rest, hd, hbyte, htwo, hthree, hfour⟩ := exists_lead d
  -- either the other character has more octets, or the digits of equally many decide
  by_cases h1 : c.val.toNat ≤ 0x7F
  · by_cases h1' : d.val.toNat ≤ 0x7F
    · rw [String.utf8EncodeChar, String.utf8EncodeChar, if_pos h1, if_pos h1']
      exact cons_lt_cons_of_lt hlt (by omega) _ _
    · rw [hd, String.utf8EncodeChar, if_pos h1]
      exact cons_lt_cons_of_lt (by omega) hbyte _ _
  by_cases h2 : c.val.toNat ≤ 0x7FF
  · by_cases h2' : d.val.toNat ≤ 0x7FF
    · rw [String.utf8EncodeChar, String.utf8EncodeChar, if_neg h1, if_pos h2, if_neg (by omega),
        if_pos h2']
      refine cons_lt_cons_of_le (by omega) (by omega) fun _ => ?_
      exact cons_lt_cons_of_lt (by omega) (by omega) _ _
    · rw [hd, String.utf8EncodeChar, if_neg h1, if_pos h2]
      exact cons_lt_cons_of_lt (by omega) hbyte _ _
  by_cases h3 : c.val.toNat ≤ 0xFFFF
  · by_cases h3' : d.val.toNat ≤ 0xFFFF
    · rw [String.utf8EncodeChar, String.utf8EncodeChar, if_neg h1, if_neg h2, if_pos h3,
        if_neg (by omega), if_neg (by omega), if_pos h3']
      refine cons_lt_cons_of_le (by omega) (by omega) fun _ => ?_
      refine cons_lt_cons_of_le (by omega) (by omega) fun _ => ?_
      exact cons_lt_cons_of_lt (by omega) (by omega) _ _
    · rw [hd, String.utf8EncodeChar, if_neg h1, if_neg h2, if_pos h3]
      exact cons_lt_cons_of_lt (by omega) hbyte _ _
  · rw [String.utf8EncodeChar, String.utf8EncodeChar, if_neg h1, if_neg h2, if_neg h3,
      if_neg (by omega), if_neg (by omega), if_neg (by omega)]
    refine cons_lt_cons_of_le (by omega) (by omega) fun _ => ?_
    refine cons_lt_cons_of_le (by omega) (by omega) fun _ => ?_
    refine cons_lt_cons_of_le (by omega) (by omega) fun _ => ?_
    exact cons_lt_cons_of_lt (by omega) (by omega) _ _

/-! ## Texts -/

theorem flatMap_lt_flatMap {cs ds : List Char} (h : cs < ds) :
    cs.flatMap String.utf8EncodeChar < ds.flatMap String.utf8EncodeChar := by
  induction h with
  | @nil d ds =>
      rw [List.flatMap_nil, List.flatMap_cons]
      obtain ⟨lead, rest, hd, -⟩ := exists_lead d
      rw [hd]
      exact List.nil_lt_cons _ _
  | @rel c d cs ds hcd =>
      rw [List.flatMap_cons, List.flatMap_cons]
      exact encodeChar_append_lt hcd _ _
  | @cons c cs ds _ ih =>
      rw [List.flatMap_cons, List.flatMap_cons]
      exact List.append_left_lt ih

/-- Octets are in the order of the texts that they encode. -/
theorem encode_lt_encode_iff {s t : String} : encode s < encode t ↔ s < t := by
  constructor
  · intro h
    rcases Std.lt_trichotomy s t with hst | rfl | hts
    · exact hst
    · exact absurd h (List.lt_irrefl _)
    · exact absurd (List.lt_trans h (flatMap_lt_flatMap hts)) (List.lt_irrefl _)
  · intro h
    exact flatMap_lt_flatMap h

theorem encode_inj {s t : String} : encode s = encode t ↔ s = t := by
  constructor
  · intro h
    have hchars := congrArg lossyChars h
    rw [lossyChars_encode, lossyChars_encode] at hchars
    exact String.toList_inj.mp hchars
  · intro h
    rw [h]

end HostInventory.Utf8
