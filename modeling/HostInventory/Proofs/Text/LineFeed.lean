import HostInventory.Proofs.Text.Cut
import HostInventory.Proofs.Text.Utf8

/-!
# Damage stays in its line

What a program prints is decoded as a whole and cut into lines afterwards. A damaged character could
therefore swallow the line feed behind it, or be read as a line feed itself. It does neither: what
the decoder has left unfinished is a character of more than one octet (`Unfinished.IsWide`), which a
line feed does not continue and which is no line feed once it is complete. So decoding goes line by
line. The line feed ends what was unfinished before it, and behind it decoding begins anew
(`lossyChars_append_lineFeed`).

`Octets.ofLines` puts lines together with a line feed between each two. This covers every way of
ending lines: a carriage return before a line feed is the last character of its line, and behind a
line feed at the end there is one more line, which is empty.
-/

namespace HostInventory

namespace Utf8

/-! ## What is left unfinished -/

/-- Whether the octets read so far can only become a character of more than one octet: two is the
least number of bits above the last six of such a character. -/
structure Unfinished.IsWide (u : Unfinished) : Prop where
  low : 0x80 ≤ u.low
  more : 2 ≤ u.bits * 64 + (u.low - 0x80)
  last : u.owed ≤ 1 → 2 ≤ u.bits

theorem isWide_of_open? {octet : Nat} {u : Unfinished} (h : open? octet = some u) : u.IsWide := by
  unfold open? at h
  -- one case for each kind of first octet
  repeat' split at h
  all_goals cases h
  all_goals exact ⟨by simp, by simp <;> omega, by simp <;> omega⟩

theorem isWide_of_start {octet : Nat} {u : Unfinished} (h : (start octet).2 = some u) :
    u.IsWide := by
  unfold start at h
  split at h
  · cases h
  · cases hopen : open? octet with
    | none => simp [hopen] at h
    | some v =>
        rw [hopen] at h
        obtain rfl := Option.some.inj h
        exact isWide_of_open? hopen

variable {s : Option Unfinished}

theorem readFrom_cons (s : Option Unfinished) (octet : UInt8) (rest : Octets) :
    readFrom s (octet :: rest) =
      (feed s octet.toNat).1 ++ readFrom (feed s octet.toNat).2 rest := by
  rw [readFrom]

theorem isWide_of_feed (hs : ∀ u, s = some u → u.IsWide) {octet : Nat} {u : Unfinished}
    (h : (feed s octet).2 = some u) : u.IsWide := by
  cases s with
  | none => exact isWide_of_start h
  | some v =>
      obtain ⟨hlow, hmore, -⟩ := hs v rfl
      rw [feed] at h
      split at h
      · rename_i hin
        dsimp only at h
        split at h
        · cases h
        · obtain rfl := Option.some.inj h
          have hbits : 2 ≤ v.bits * 64 + (octet - 0x80) := by omega
          refine ⟨Nat.le_refl _, ?_, fun _ => hbits⟩
          dsimp only
          omega
      · exact isWide_of_start h

/-! ## Line feeds -/

theorem ofNat_ne_lineFeed {n : Nat} (h : n ≠ 0x0A) : Char.ofNat n ≠ '\n' := by
  intro heq
  by_cases hvalid : n.isValidChar
  · have hchar : Char.ofNat n = Char.ofNatAux n hvalid := dif_pos hvalid
    exact h (congrArg Char.toNat (hchar.symm.trans heq))
  · have hchar : Char.ofNat n = '\x00' := dif_neg hvalid
    exact absurd (hchar.symm.trans heq) (by decide)

theorem lineFeed_not_mem_start {octet : Nat} (h : octet ≠ 0x0A) : '\n' ∉ (start octet).1 := by
  unfold start
  split
  · exact fun hmem => ofNat_ne_lineFeed h (List.mem_singleton.mp hmem).symm
  · cases open? octet with
    | none => decide
    | some u => exact List.not_mem_nil

theorem lineFeed_not_mem_feed (hs : ∀ u, s = some u → u.IsWide) {octet : Nat} (h : octet ≠ 0x0A) :
    '\n' ∉ (feed s octet).1 := by
  cases s with
  | none => exact lineFeed_not_mem_start h
  | some v =>
      obtain ⟨-, -, hlast⟩ := hs v rfl
      rw [feed]
      split
      · dsimp only
        split
        · rename_i howed
          have hbits := hlast howed
          have hne : v.bits * 64 + (octet - 0x80) ≠ 0x0A := by omega
          exact fun hmem => ofNat_ne_lineFeed hne (List.mem_singleton.mp hmem).symm
        · exact List.not_mem_nil
      · intro hmem
        rcases List.mem_cons.mp hmem with heq | hmem
        · revert heq
          decide
        · exact lineFeed_not_mem_start h hmem

theorem lineFeed_not_mem_readFrom :
    ∀ {octets : Octets} {s : Option Unfinished}, (∀ u, s = some u → u.IsWide) →
      0x0A ∉ octets → '\n' ∉ readFrom s octets
  | [], none, _, _ => List.not_mem_nil
  | [], some _, _, _ => fun hmem => absurd (List.mem_singleton.mp hmem) (by decide)
  | octet :: octets, s, hs, h => by
      obtain ⟨hne, hoctets⟩ := not_or.mp (mt List.mem_cons.mpr h)
      have hoctet : octet.toNat ≠ 0x0A := fun heq => hne (UInt8.toNat.inj heq).symm
      rw [readFrom_cons, List.mem_append]
      rintro (hmem | hmem)
      · exact lineFeed_not_mem_feed hs hoctet hmem
      · exact lineFeed_not_mem_readFrom (fun _ => isWide_of_feed hs) hoctets hmem

/-- No damage is read as a line feed. -/
theorem lineFeed_not_mem_lossyChars {octets : Octets} (h : 0x0A ∉ octets) :
    '\n' ∉ lossyChars octets :=
  lineFeed_not_mem_readFrom nofun h

theorem readFrom_append_lineFeed (b : Octets) :
    ∀ {a : Octets} {s : Option Unfinished}, (∀ u, s = some u → u.IsWide) →
      readFrom s (a ++ 0x0A :: b) = readFrom s a ++ '\n' :: lossyChars b
  | [], s, hs => by
      have hrest : (feed s 0x0A).2 = none := feed_lineFeed s fun u hu => (hs u hu).low
      have hchars : (feed s 0x0A).1 = readFrom s [] ++ ['\n'] := by
        cases s with
        | none => rfl
        | some u =>
            have hlow := (hs u rfl).low
            rw [feed, if_neg (by omega)]
            rfl
      rw [List.nil_append, readFrom_cons, show (0x0A : UInt8).toNat = 0x0A from rfl, hrest, hchars,
        List.append_assoc]
      rfl
  | octet :: a, s, hs => by
      have hs' : ∀ u, (feed s octet.toNat).2 = some u → u.IsWide := fun _ => isWide_of_feed hs
      rw [List.cons_append, readFrom_cons, readFrom_cons, readFrom_append_lineFeed b hs',
        List.append_assoc]

/-- Decoding begins anew behind a line feed, whatever stands before it. -/
theorem lossyChars_append_lineFeed (a b : Octets) :
    lossyChars (a ++ 0x0A :: b) = lossyChars a ++ '\n' :: lossyChars b :=
  readFrom_append_lineFeed b nofun

end Utf8

namespace Text

/-! ## Lines put together -/

theorem joinWith_concat_lineFeed {ls : List (List Char)} (h : ls ≠ []) :
    joinWith ['\n'] ls ++ ['\n'] = ls.flatMap (· ++ ['\n']) := by
  induction ls with
  | nil => exact absurd rfl h
  | cons l ls ih =>
      by_cases hls : ls = []
      · simp [hls, joinWith]
      · rw [joinWith_cons hls, List.flatMap_cons, ← ih hls]
        simp only [List.append_assoc]

/-- What is picked from lines is picked on both sides of a line feed, as long as a carriage return
at the end and an empty line make no difference. -/
theorem filterMap_lines_append {β : Type} {f : List Char → Option β}
    (hf : ∀ line, f (dropReturn line) = f line) (hempty : f [] = none) (xs ys : List Char) :
    (lines (xs ++ '\n' :: ys)).filterMap f = (lines xs).filterMap f ++ (lines ys).filterMap f := by
  have hfeed : (lines (xs ++ ['\n'])).filterMap f = (lines xs).filterMap f := by
    have hmap : ∀ ls : List (List Char), ls.filterMap f = (ls.map f).filterMap id := by
      intro ls
      rw [List.filterMap_map]
      rfl
    rw [hmap, hmap]
    rcases map_lines_concat_lineFeed hf xs with heq | heq
    · rw [heq]
    · rw [heq, hempty, List.filterMap_append]
      exact List.append_nil _
  rw [lines_append_lineFeed, List.filterMap_append, hfeed]

end Text

/-- Lines of octets with a line feed between each two. -/
def Octets.ofLines : List Octets → Octets
  | [] => []
  | [line] => line
  | line :: next :: rest => line ++ 0x0A :: ofLines (next :: rest)

namespace Octets

theorem ofLines_cons {rest : List Octets} (h : rest ≠ []) (line : Octets) :
    ofLines (line :: rest) = line ++ 0x0A :: ofLines rest := by
  cases rest with
  | nil => exact absurd rfl h
  | cons next rest => rfl

theorem ofLines_append {ls rest : List Octets} (h : ls ≠ []) (hrest : rest ≠ []) :
    ofLines (ls ++ rest) = ofLines ls ++ 0x0A :: ofLines rest := by
  induction ls with
  | nil => exact absurd rfl h
  | cons line ls ih =>
      by_cases hls : ls = []
      · rw [hls]
        exact ofLines_cons hrest line
      · have hne : ls ++ rest ≠ [] := List.append_ne_nil_of_left_ne_nil hls _
        rw [List.cons_append, ofLines_cons hne, ih hls, ofLines_cons hls, List.append_assoc]
        rfl

/-- Lines are decoded one by one. -/
theorem lossyChars_ofLines (ls : List Octets) :
    Utf8.lossyChars (ofLines ls) = Text.joinWith ['\n'] (ls.map Utf8.lossyChars) := by
  induction ls with
  | nil => rfl
  | cons line ls ih =>
      by_cases hls : ls = []
      · rw [hls]
        rfl
      · have hmap : ls.map Utf8.lossyChars ≠ [] := mt List.map_eq_nil_iff.mp hls
        rw [ofLines_cons hls, Utf8.lossyChars_append_lineFeed, ih, List.map_cons,
          Text.joinWith_cons hmap]
        simp

/-- All octets are lines. -/
theorem exists_ofLines (octets : Octets) :
    ∃ first rest, (∀ line ∈ first :: rest, 0x0A ∉ line) ∧ ofLines (first :: rest) = octets := by
  induction octets with
  | nil => exact ⟨[], [], by simp, rfl⟩
  | cons octet octets ih =>
      obtain ⟨first, rest, hlines, rfl⟩ := ih
      by_cases hoctet : octet = 0x0A
      · refine ⟨[], first :: rest, List.forall_mem_cons.mpr ⟨List.not_mem_nil, hlines⟩, ?_⟩
        rw [hoctet]
        rfl
      · obtain ⟨hfirst, hrest⟩ := List.forall_mem_cons.mp hlines
        have hline : 0x0A ∉ octet :: first := by simp [Ne.symm hoctet, hfirst]
        refine ⟨octet :: first, rest, List.forall_mem_cons.mpr ⟨hline, hrest⟩, ?_⟩
        cases rest <;> rfl

end Octets

end HostInventory
