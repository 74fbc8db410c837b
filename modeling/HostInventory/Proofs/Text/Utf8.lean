import HostInventory.Text.Utf8

/-!
# Reading what was written as UTF-8

The octets of a text are read back as its characters. A character is taken octet by octet: the first
one opens it, each that follows stays within the bounds that the octets before have left, and the
last one completes it.
-/

namespace HostInventory.Utf8

theorem toNat_ofNat_of_lt {n : Nat} (h : n < 256) : (UInt8.ofNat n).toNat = n := by
  rw [UInt8.toNat_ofNat', Nat.mod_eq_of_lt h]

/-! ## One octet -/

theorem readFrom_open {octet : Nat} {u : Unfinished} (hlow : 0x80 ≤ octet) (hhigh : octet < 256)
    (h : open? octet = some u) (rest : Octets) :
    readFrom none (UInt8.ofNat octet :: rest) = readFrom (some u) rest := by
  rw [readFrom, toNat_ofNat_of_lt hhigh]
  simp [feed, start, Nat.not_lt.mpr hlow, h]

theorem readFrom_more {octet : Nat} {u : Unfinished} (hlow : u.low ≤ octet)
    (hhigh : octet ≤ u.high) (hlt : octet < 256) (hu : 1 < u.owed) (rest : Octets) :
    readFrom (some u) (UInt8.ofNat octet :: rest) =
      readFrom (some ⟨u.owed - 1, u.bits * 64 + (octet - 0x80), 0x80, 0xBF⟩) rest := by
  rw [readFrom, toNat_ofNat_of_lt hlt, feed, if_pos ⟨hlow, hhigh⟩]
  simp [Nat.not_le.mpr hu]

theorem readFrom_last {octet : Nat} {u : Unfinished} (hlow : u.low ≤ octet)
    (hhigh : octet ≤ u.high) (hlt : octet < 256) (hu : u.owed ≤ 1) (rest : Octets) :
    readFrom (some u) (UInt8.ofNat octet :: rest) =
      Char.ofNat (u.bits * 64 + (octet - 0x80)) :: readFrom none rest := by
  rw [readFrom, toNat_ofNat_of_lt hlt, feed, if_pos ⟨hlow, hhigh⟩]
  simp [hu]

/-! ## One character -/

/-- The bounds on the code point of a character. -/
theorem toNat_lt (c : Char) : c.toNat < 0xD800 ∨ (0xDFFF < c.toNat ∧ c.toNat < 0x110000) := by
  have h := c.valid
  simpa [UInt32.isValidChar, Nat.isValidChar] using h

theorem readFrom_two {n : Nat} (hlow : 0x80 ≤ n) (hhigh : n ≤ 0x7FF) (rest : Octets) :
    readFrom none (UInt8.ofNat (n / 64 % 32 + 192) :: UInt8.ofNat (n % 64 + 128) :: rest) =
      Char.ofNat n :: readFrom none rest := by
  have hopen : open? (n / 64 % 32 + 192) = some ⟨1, n / 64, 0x80, 0xBF⟩ := by
    unfold open?
    rw [if_neg (by omega), if_pos (by omega),
      show n / 64 % 32 + 192 - 0xC0 = n / 64 by omega]
  have hbits : n / 64 * 64 + (n % 64 + 128 - 0x80) = n := by omega
  rw [readFrom_open (by omega) (by omega) hopen, readFrom_last (by simp) (by simp; omega)
    (by omega) (by simp)]
  dsimp only
  rw [hbits]

theorem readFrom_three {n : Nat} (hlow : 0x800 ≤ n) (hhigh : n ≤ 0xFFFF)
    (hn : n < 0xD800 ∨ 0xDFFF < n) (rest : Octets) :
    readFrom none (UInt8.ofNat (n / 4096 % 16 + 224) :: UInt8.ofNat (n / 64 % 64 + 128) ::
        UInt8.ofNat (n % 64 + 128) :: rest) = Char.ofNat n :: readFrom none rest := by
  have hopen : ∃ low high, open? (n / 4096 % 16 + 224) = some ⟨2, n / 4096, low, high⟩ ∧
      low ≤ n / 64 % 64 + 128 ∧ n / 64 % 64 + 128 ≤ high := by
    unfold open?
    rw [if_neg (by omega), if_neg (by omega)]
    split
    · have hfirst : n / 4096 = 0 := by omega
      exact ⟨0xA0, 0xBF, by rw [hfirst], by omega, by omega⟩
    · split
      · have hfirst : n / 4096 = 0xD := by omega
        exact ⟨0x80, 0x9F, by rw [hfirst], by omega, by omega⟩
      · have hfirst : n / 4096 % 16 + 224 - 0xE0 = n / 4096 := by omega
        rw [if_pos (by omega), hfirst]
        exact ⟨0x80, 0xBF, rfl, by omega, by omega⟩
  obtain ⟨low, high, hopen, hl, hh⟩ := hopen
  have hbits : (n / 4096 * 64 + (n / 64 % 64 + 128 - 0x80)) * 64 + (n % 64 + 128 - 0x80) = n := by
    omega
  rw [readFrom_open (by omega) (by omega) hopen, readFrom_more hl hh (by omega) (by simp),
    readFrom_last (by simp) (by simp; omega) (by omega) (by simp)]
  dsimp only
  rw [hbits]

theorem readFrom_four {n : Nat} (hlow : 0x10000 ≤ n) (hhigh : n < 0x110000) (rest : Octets) :
    readFrom none (UInt8.ofNat (n / 262144 % 8 + 240) :: UInt8.ofNat (n / 4096 % 64 + 128) ::
        UInt8.ofNat (n / 64 % 64 + 128) :: UInt8.ofNat (n % 64 + 128) :: rest) =
      Char.ofNat n :: readFrom none rest := by
  have hopen : ∃ low high, open? (n / 262144 % 8 + 240) = some ⟨3, n / 262144, low, high⟩ ∧
      low ≤ n / 4096 % 64 + 128 ∧ n / 4096 % 64 + 128 ≤ high := by
    unfold open?
    rw [if_neg (by omega), if_neg (by omega), if_neg (by omega), if_neg (by omega),
      if_neg (by omega)]
    split
    · have hfirst : n / 262144 = 0 := by omega
      exact ⟨0x90, 0xBF, by rw [hfirst], by omega, by omega⟩
    · split
      · have hfirst : n / 262144 % 8 + 240 - 0xF0 = n / 262144 := by omega
        rw [hfirst]
        exact ⟨0x80, 0xBF, rfl, by omega, by omega⟩
      · have hfirst : n / 262144 = 4 := by omega
        rw [if_pos (by omega), hfirst]
        exact ⟨0x80, 0x8F, rfl, by omega, by omega⟩
  obtain ⟨low, high, hopen, hl, hh⟩ := hopen
  have hbits : ((n / 262144 * 64 + (n / 4096 % 64 + 128 - 0x80)) * 64 +
      (n / 64 % 64 + 128 - 0x80)) * 64 + (n % 64 + 128 - 0x80) = n := by omega
  rw [readFrom_open (by omega) (by omega) hopen, readFrom_more hl hh (by omega) (by simp),
    readFrom_more (by simp) (by simp; omega) (by omega) (by simp),
    readFrom_last (by simp) (by simp; omega) (by omega) (by simp)]
  dsimp only
  rw [hbits]

theorem readFrom_encodeChar (c : Char) (rest : Octets) :
    readFrom none (String.utf8EncodeChar c ++ rest) = c :: readFrom none rest := by
  have hc : Char.ofNat c.toNat = c := Char.ofNat_toNat c
  have hn := toNat_lt c
  have hv : c.val.toNat = c.toNat := rfl
  unfold String.utf8EncodeChar
  simp only [hv]
  split
  · rw [List.singleton_append, readFrom, toNat_ofNat_of_lt (by omega), feed, start,
      if_pos (by omega), hc]
    rfl
  · split
    · exact (readFrom_two (by omega) (by omega) rest).trans (by rw [hc])
    · split
      · exact (readFrom_three (by omega) (by omega) (by omega) rest).trans (by rw [hc])
      · exact (readFrom_four (by omega) (by omega) rest).trans (by rw [hc])

/-! ## All characters -/

theorem readFrom_flatMap (cs : List Char) :
    readFrom none (cs.flatMap String.utf8EncodeChar) = cs := by
  induction cs with
  | nil => rfl
  | cons c cs ih => rw [List.flatMap_cons, readFrom_encodeChar, ih]

/-- What was written as UTF-8 is read back. -/
theorem lossyChars_encode (text : String) : lossyChars (encode text) = text.toList :=
  readFrom_flatMap text.toList

end HostInventory.Utf8
