import HostInventory.Proofs.Text.Cut
import HostInventory.Text.Lowercase
import Mathlib.Data.List.Basic

/-!
# What lower-casing leaves

Lower-casing a text that is in lower case changes nothing, blanks at the ends neither appear nor
vanish, and the case of a letter of ASCII makes no difference to what comes out. The first two are
read off the table of lower-case pairs: no lower-case form in it has a lower-case form of its own
(`CaseRun.not_covers_apply`), and none is blank. The rule for the capital sigma looks at the letters
around it; it does not get in the way because no capital sigma is left, and because letters of ASCII
are cased in either case.
-/

namespace HostInventory.Text

/-! ## The table of lower-case pairs -/

namespace CaseRun

theorem covers_iff {r : CaseRun} {n : Nat} :
    r.covers n = true ↔ r.first ≤ n ∧ n ≤ r.last ∧ (n - r.first) % r.step = 0 := by
  simp [covers, and_assoc]

/-- Whether the lower-case forms of a run are seen not to be in another run: they lie before or
behind it, or between its members, which stand at every second code point. -/
def isApart (r q : CaseRun) : Bool :=
  Nat.blt (r.apply r.last) q.first || Nat.blt q.last r.image ||
    (Nat.beq q.step 2 && (Nat.beq r.step 2 || Nat.beq r.first r.last) &&
      Nat.beq ((r.image + q.first) % 2) 1)

/-- Whether all lower-case forms of a run lie before or behind a range. -/
def avoids (r : CaseRun) (range : CodeRange) : Bool :=
  Nat.blt (r.apply r.last) range.1 || Nat.blt range.2 r.image

variable {r q : CaseRun} {n : Nat}

theorem le_apply (hn : r.covers n = true) : r.image ≤ r.apply n ∧ r.apply n ≤ r.apply r.last := by
  obtain ⟨hfirst, hlast, -⟩ := covers_iff.mp hn
  simp only [apply]
  omega

theorem not_covers_apply (h : r.isApart q = true) (hn : r.covers n = true) :
    q.covers (r.apply n) = false := by
  rw [Bool.eq_false_iff]
  intro hq
  obtain ⟨himage, hend⟩ := le_apply hn
  obtain ⟨hfirst, hlast, hstep⟩ := covers_iff.mp hn
  obtain ⟨hqfirst, hqlast, hqstep⟩ := covers_iff.mp hq
  simp only [isApart, Bool.or_eq_true, Bool.and_eq_true, Nat.blt_eq, Nat.beq_eq] at h
  rcases h with (h | h) | ⟨⟨htwo, h⟩, hparity⟩
  · omega
  · omega
  · rw [htwo] at hqstep
    simp only [apply] at hqfirst hqstep
    rcases h with h | h
    · rw [h] at hstep
      omega
    · omega

theorem not_inRanges_apply {ranges : List CodeRange} (h : ranges.all r.avoids = true)
    (hn : r.covers n = true) : inRanges ranges (r.apply n) = false := by
  obtain ⟨himage, hend⟩ := le_apply hn
  rw [inRanges, List.any_eq_false]
  intro range hrange
  have havoids := List.all_eq_true.mp h range hrange
  simp only [avoids, Bool.or_eq_true, Nat.blt_eq] at havoids
  simp only [Bool.and_eq_true, decide_eq_true_eq]
  omega

end CaseRun

def blankRanges : List CodeRange :=
  [(9, 13), (0x20, 0x20), (0x85, 0x85), (0xA0, 0xA0), (0x1680, 0x1680), (0x2000, 0x200A),
    (0x2028, 0x2029), (0x202F, 0x202F), (0x205F, 0x205F), (0x3000, 0x3000)]

/-- The code points that are no lower-case form in the table for other reasons: the character whose
lower-case form is longer, and the halves of surrogate pairs. -/
def oddRanges : List CodeRange :=
  [(0x130, 0x130), (0xD800, 0xDFFF)]

theorem isBlank_eq (c : Char) : isBlank c = inRanges blankRanges c.toNat := by
  rw [Bool.eq_iff_iff]
  simp only [isBlank, inRanges, blankRanges, List.any_cons, List.any_nil, Bool.or_eq_true,
    Bool.and_eq_true, decide_eq_true_eq, beq_iff_eq, Bool.or_false]
  omega

/-- What is checked of a run in the table: its lower-case forms are in no run of the table, no
blanks and nothing odd, and they are characters; only the first run has members in ASCII, the
capital letters; and the characters that the rules beside the table write are no members. -/
def CaseRun.isSound (r : CaseRun) : Bool :=
  caseRuns.all r.isApart && (blankRanges.all r.avoids && oddRanges.all r.avoids) &&
    Nat.blt (r.apply r.last) 0x110000 &&
    (Nat.blt 0x7F r.first || Nat.beq r.first 0x41 && Nat.beq r.last 0x5A) &&
    (!r.covers 0x307 && !r.covers 0x3C3 && !r.covers 0x3C2)

/-- The runs of the table are sound, and the capital sigma is in one of them. -/
theorem caseRuns_sound :
    (caseRuns.all CaseRun.isSound && caseRuns.any fun r => r.covers 0x3A3) = true := by
  decide +kernel

/-- What one check of the table says about a run. -/
structure CaseRun.Sound (r : CaseRun) : Prop where
  apart : ∀ q ∈ caseRuns, r.isApart q = true
  notBlank : blankRanges.all r.avoids = true
  notOdd : oddRanges.all r.avoids = true
  valid : r.apply r.last < 0x110000
  ascii : 0x7F < r.first ∨ r.first = 0x41 ∧ r.last = 0x5A
  notWritten : ∀ n, n = 0x307 ∨ n = 0x3C3 ∨ n = 0x3C2 → r.covers n = false

theorem CaseRun.sound_of_mem {r : CaseRun} (hr : r ∈ caseRuns) : r.Sound := by
  have htable := caseRuns_sound
  rw [Bool.and_eq_true, List.all_eq_true] at htable
  have h := htable.1 r hr
  simp only [CaseRun.isSound, Bool.and_eq_true, Bool.or_eq_true, Nat.blt_eq, Nat.beq_eq,
    Bool.not_eq_true'] at h
  obtain ⟨⟨⟨⟨hapart, hblank, hodd⟩, hvalid⟩, hascii⟩, ⟨hdot, hsigma⟩, hfinal⟩ := h
  exact {
    apart := List.all_eq_true.mp hapart
    notBlank := hblank
    notOdd := hodd
    valid := hvalid
    ascii := hascii
    notWritten := by
      rintro n (rfl | rfl | rfl)
      · exact hdot
      · exact hsigma
      · exact hfinal }

/-! ## Characters in lower case -/

/-- Whether a code point has no other lower-case form. -/
def IsLower (n : Nat) : Prop :=
  n ≠ 0x130 ∧ ∀ r ∈ caseRuns, r.covers n = false

theorem isLower_ascii {n : Nat} (h : n < 0x80) (hcapital : ¬ (0x41 ≤ n ∧ n ≤ 0x5A)) :
    IsLower n := by
  refine ⟨by omega, fun r hr => ?_⟩
  have hascii := (CaseRun.sound_of_mem hr).ascii
  rw [Bool.eq_false_iff]
  intro hcovers
  obtain ⟨hfirst, hlast, -⟩ := CaseRun.covers_iff.mp hcovers
  omega

theorem isLower_apply {r : CaseRun} (hr : r ∈ caseRuns) {n : Nat} (hn : r.covers n = true) :
    IsLower (r.apply n) := by
  have hsound := CaseRun.sound_of_mem hr
  have hodd := CaseRun.not_inRanges_apply hsound.notOdd hn
  refine ⟨fun h => ?_, fun q hq => CaseRun.not_covers_apply (hsound.apart q hq) hn⟩
  rw [h] at hodd
  cases hodd

theorem toNat_ofNat_of_isValidChar {n : Nat} (h : n.isValidChar) : (Char.ofNat n).toNat = n := by
  rw [Char.ofNat, dif_pos h]
  rfl

theorem toNat_ofNat_apply {r : CaseRun} (hr : r ∈ caseRuns) {n : Nat} (hn : r.covers n = true) :
    (Char.ofNat (r.apply n)).toNat = r.apply n := by
  have hsound := CaseRun.sound_of_mem hr
  have hodd := CaseRun.not_inRanges_apply hsound.notOdd hn
  have hvalid := hsound.valid
  obtain ⟨-, hend⟩ := CaseRun.le_apply hn
  simp only [inRanges, oddRanges, List.any_cons, List.any_nil, Bool.or_false, Bool.or_eq_false_iff,
    Bool.and_eq_false_iff, decide_eq_false_iff_not] at hodd
  refine toNat_ofNat_of_isValidChar ?_
  simp only [Nat.isValidChar]
  omega

theorem lowerChar_of_isLower {c : Char} (h : IsLower c.toNat) : lowerChar c = [c] := by
  obtain ⟨hdotted, hruns⟩ := h
  simp only [lowerChar]
  split
  · split
    · rename_i hcapital
      have hcovers := hruns ⟨0x41, 0x5A, 1, 0x61⟩ List.mem_cons_self
      rw [Bool.eq_false_iff] at hcovers
      exact absurd (CaseRun.covers_iff.mpr ⟨hcapital.1, hcapital.2, Nat.mod_one _⟩) hcovers
    · rfl
  · rw [List.find?_eq_none.mpr fun r hr => Bool.eq_false_iff.mp (hruns r hr)]

/-- The ways in which a character comes about by lower-casing another. -/
theorem mem_lowerChar {c d : Char} (h : d ∈ lowerChar c) :
    (0x41 ≤ c.toNat ∧ c.toNat ≤ 0x5A ∧ d.toNat = c.toNat + 0x20) ∨
      (IsLower c.toNat ∧ d = c) ∨
      (c.toNat = 0x130 ∧ (d = 'i' ∨ d = '\u0307')) ∨
      ∃ r ∈ caseRuns, r.covers c.toNat = true ∧ d.toNat = r.apply c.toNat := by
  simp only [lowerChar] at h
  split at h
  · rename_i hascii
    split at h
    · rename_i hcapital
      obtain rfl := List.mem_singleton.mp h
      exact .inl ⟨hcapital.1, hcapital.2, toNat_ofNat_of_isValidChar (.inl (by omega))⟩
    · rename_i hcapital
      exact .inr (.inl ⟨isLower_ascii hascii hcapital, List.mem_singleton.mp h⟩)
  · split at h
    · rename_i hdotted
      exact .inr (.inr (.inl ⟨hdotted, by simpa using h⟩))
    · rename_i hdotted
      split at h
      · rename_i r hr
        obtain rfl := List.mem_singleton.mp h
        have hmem := List.mem_of_find?_eq_some hr
        have hcovers := List.find?_some hr
        exact .inr (.inr (.inr ⟨r, hmem, hcovers, toNat_ofNat_apply hmem hcovers⟩))
      · rename_i hnone
        refine .inr (.inl ⟨⟨hdotted, fun r hr => ?_⟩, List.mem_singleton.mp h⟩)
        exact Bool.eq_false_iff.mpr (List.find?_eq_none.mp hnone r hr)

theorem isLower_of_dot_or_sigma {c : Char} (h : c = '\u0307' ∨ c = 'σ' ∨ c = 'ς') :
    IsLower c.toNat := by
  have hruns := fun r (hr : r ∈ caseRuns) => (CaseRun.sound_of_mem hr).notWritten
  rcases h with rfl | rfl | rfl
  · exact ⟨by decide, fun r hr => hruns r hr _ (.inl rfl)⟩
  · exact ⟨by decide, fun r hr => hruns r hr _ (.inr (.inl rfl))⟩
  · exact ⟨by decide, fun r hr => hruns r hr _ (.inr (.inr rfl))⟩

theorem not_isLower_capitalSigma : ¬ IsLower 'Σ'.toNat := by
  have hruns := caseRuns_sound
  rw [Bool.and_eq_true] at hruns
  obtain ⟨r, hr, hcovers⟩ := List.any_eq_true.mp hruns.2
  exact fun h => Bool.eq_false_iff.mp (h.2 r hr) hcovers

theorem isLower_of_mem_lowerChar {c d : Char} (h : d ∈ lowerChar c) : IsLower d.toNat := by
  rcases mem_lowerChar h with ⟨hfirst, hlast, hd⟩ | ⟨hc, rfl⟩ | ⟨-, rfl | rfl⟩ |
    ⟨r, hr, hcovers, hd⟩
  · exact isLower_ascii (by omega) (by omega)
  · exact hc
  · exact isLower_ascii (by decide) (by decide)
  · exact isLower_of_dot_or_sigma (.inl rfl)
  · rw [hd]
    exact isLower_apply hr hcovers

theorem isBlank_of_mem_lowerChar {c d : Char} (h : d ∈ lowerChar c) (hc : isBlank c = false) :
    isBlank d = false := by
  rcases mem_lowerChar h with ⟨hfirst, hlast, hd⟩ | ⟨-, rfl⟩ | ⟨-, rfl | rfl⟩ |
    ⟨r, hr, hcovers, hd⟩
  · simp only [isBlank_eq, inRanges, blankRanges, List.any_cons, List.any_nil, Bool.or_eq_false_iff,
      Bool.and_eq_false_iff, decide_eq_false_iff_not, Bool.or_false]
    omega
  · exact hc
  · decide
  · decide
  · rw [isBlank_eq, hd]
    exact CaseRun.not_inRanges_apply (CaseRun.sound_of_mem hr).notBlank hcovers

theorem lowerChar_ne_nil (c : Char) : lowerChar c ≠ [] := by
  simp only [lowerChar]
  repeat' split
  all_goals simp

/-! ## Texts -/

/-- The lower-case form of a character between what stands before it in reverse and after it. -/
def formIn (before : List Char) (c : Char) (after : List Char) : List Char :=
  if c = 'Σ' then if startsCased before && !startsCased after then ['ς'] else ['σ']
  else lowerChar c

theorem lowercaseFrom_cons (before : List Char) (c : Char) (after : List Char) :
    lowercaseFrom before (c :: after) =
      formIn before c after ++ lowercaseFrom (c :: before) after :=
  rfl

section

variable {before after : List Char} {c d : Char}

theorem mem_formIn (h : d ∈ formIn before c after) :
    d = 'σ' ∨ d = 'ς' ∨ d ∈ lowerChar c := by
  unfold formIn at h
  split at h
  · split at h
    · exact .inr (.inl (List.mem_singleton.mp h))
    · exact .inl (List.mem_singleton.mp h)
  · exact .inr (.inr h)

theorem isLower_of_mem_formIn (h : d ∈ formIn before c after) : IsLower d.toNat := by
  rcases mem_formIn h with rfl | rfl | h
  · exact isLower_of_dot_or_sigma (.inr (.inl rfl))
  · exact isLower_of_dot_or_sigma (.inr (.inr rfl))
  · exact isLower_of_mem_lowerChar h

theorem isBlank_of_mem_formIn (h : d ∈ formIn before c after) (hc : isBlank c = false) :
    isBlank d = false := by
  rcases mem_formIn h with rfl | rfl | h
  · decide
  · decide
  · exact isBlank_of_mem_lowerChar h hc

theorem formIn_ne_nil : formIn before c after ≠ [] := by
  unfold formIn
  split
  · split <;> simp
  · exact lowerChar_ne_nil c

theorem formIn_of_isLower (h : IsLower c.toNat) : formIn before c after = [c] := by
  have hsigma : c ≠ 'Σ' := by
    rintro rfl
    exact not_isLower_capitalSigma h
  rw [formIn, if_neg hsigma, lowerChar_of_isLower h]

end

theorem isLower_of_mem_lowercaseFrom {d : Char} {s : List Char} :
    ∀ {before : List Char}, d ∈ lowercaseFrom before s → IsLower d.toNat := by
  induction s with
  | nil => exact nofun
  | cons c s ih =>
      intro before h
      rw [lowercaseFrom_cons, List.mem_append] at h
      exact h.elim isLower_of_mem_formIn ih

theorem lowercaseFrom_of_isLower {s : List Char} (h : ∀ c ∈ s, IsLower c.toNat) :
    ∀ before, lowercaseFrom before s = s := by
  induction s with
  | nil => exact fun _ => rfl
  | cons c s ih =>
      intro before
      obtain ⟨hc, hs⟩ := List.forall_mem_cons.mp h
      rw [lowercaseFrom_cons, formIn_of_isLower hc, ih hs]
      rfl

/-- Lower-casing twice is lower-casing once. -/
theorem lowercase_lowercase (s : List Char) : lowercase (lowercase s) = lowercase s :=
  lowercaseFrom_of_isLower (fun _ hc => isLower_of_mem_lowercaseFrom hc) []

theorem head?_lowercaseFrom {s before : List Char}
    (h : ∀ c, s.head? = some c → isBlank c = false) :
    ∀ d, (lowercaseFrom before s).head? = some d → isBlank d = false := by
  cases s with
  | nil => exact nofun
  | cons c s =>
      intro d hd
      rw [lowercaseFrom_cons, List.head?_append_of_ne_nil _ formIn_ne_nil] at hd
      exact isBlank_of_mem_formIn (List.mem_of_mem_head? hd) (h c rfl)

theorem getLast?_lowercaseFrom {s : List Char} :
    ∀ {before : List Char}, (∀ c, s.getLast? = some c → isBlank c = false) →
      ∀ d, (lowercaseFrom before s).getLast? = some d → isBlank d = false := by
  induction s with
  | nil => exact nofun
  | cons c s ih =>
      intro before h d hd
      rw [lowercaseFrom_cons] at hd
      cases s with
      | nil =>
          rw [lowercaseFrom, List.append_nil] at hd
          exact isBlank_of_mem_formIn (List.mem_of_mem_getLast? hd) (h c rfl)
      | cons c' s =>
          have hne : lowercaseFrom (c :: before) (c' :: s) ≠ [] := by
            rw [lowercaseFrom_cons]
            exact List.append_ne_nil_of_left_ne_nil formIn_ne_nil _
          rw [List.getLast?_append_of_ne_nil _ hne] at hd
          exact ih (fun x hx => h x (by rw [List.getLast?_cons_cons]; exact hx)) d hd

/-- Blanks at the ends do not come about by lower-casing. -/
theorem isTrimmed_lowercase {s : List Char} (h : IsTrimmed s) : IsTrimmed (lowercase s) :=
  ⟨head?_lowercaseFrom h.head, getLast?_lowercaseFrom h.last⟩

/-! ## Letters of ASCII -/

/-- What holds of capital letters with their small ones and of each character with itself holds of
each character with its small letter. -/
theorem toLower_induction {P : Char → Char → Prop}
    (hcapital : ∀ k < 26, P (Char.ofNat (0x41 + k)) (Char.ofNat (0x61 + k)))
    (hother : ∀ c, P c c) (c : Char) : P c c.toLower := by
  unfold Char.toLower
  split
  · rename_i h
    have hfirst : 0x41 ≤ c.toNat := UInt32.le_iff_toNat_le.mp h.1
    have hlast : c.toNat ≤ 0x5A := UInt32.le_iff_toNat_le.mp h.2
    have hletter := hcapital (c.toNat - 0x41) (by omega)
    rw [show 0x41 + (c.toNat - 0x41) = c.toNat by omega, Char.ofNat_toNat] at hletter
    have hsmall : (c.val + ('a'.val - 'A'.val)).toNat = 0x61 + (c.toNat - 0x41) := by
      rw [UInt32.toNat_add]
      change (c.toNat + 0x20) % 2 ^ 32 = _
      omega
    refine Eq.mp (congrArg (P c) (Char.ext (UInt32.toNat_inj.mp ?_))) hletter
    exact (toNat_ofNat_of_isValidChar (.inl (by omega))).trans hsmall.symm
  · exact hother c

/-- A capital letter and its small one have the same lower-case form and are alike in being cased, a
blank or the capital sigma. -/
theorem capital_small : ∀ k < 26,
    lowerChar (Char.ofNat (0x61 + k)) = lowerChar (Char.ofNat (0x41 + k)) ∧
      isCased (Char.ofNat (0x61 + k)) = isCased (Char.ofNat (0x41 + k)) ∧
      isBlank (Char.ofNat (0x61 + k)) = isBlank (Char.ofNat (0x41 + k)) ∧
      (Char.ofNat (0x61 + k) = 'Σ' ↔ Char.ofNat (0x41 + k) = 'Σ') := by
  decide +kernel

theorem lowerChar_toLower (c : Char) : lowerChar c.toLower = lowerChar c :=
  toLower_induction (P := fun c d => lowerChar d = lowerChar c)
    (fun k hk => (capital_small k hk).1) (fun _ => rfl) c

theorem isCased_toLower (c : Char) : isCased c.toLower = isCased c :=
  toLower_induction (P := fun c d => isCased d = isCased c)
    (fun k hk => (capital_small k hk).2.1) (fun _ => rfl) c

theorem isBlank_toLower (c : Char) : isBlank c.toLower = isBlank c :=
  toLower_induction (P := fun c d => isBlank d = isBlank c)
    (fun k hk => (capital_small k hk).2.2.1) (fun _ => rfl) c

theorem toLower_eq_sigma_iff (c : Char) : c.toLower = 'Σ' ↔ c = 'Σ' :=
  toLower_induction (P := fun c d => d = 'Σ' ↔ c = 'Σ')
    (fun k hk => (capital_small k hk).2.2.2) (fun _ => .rfl) c

/-- No letter of ASCII is case-ignorable. -/
theorem caseIgnorableRanges_ascii :
    (caseIgnorableRanges.all fun range =>
      Nat.blt range.2 0x41 || Nat.blt 0x5A range.1 && Nat.blt range.2 0x61 ||
        Nat.blt 0x7A range.1) = true := by
  decide +kernel

theorem isCaseIgnorable_ascii {c : Char}
    (h : 0x41 ≤ c.toNat ∧ c.toNat ≤ 0x5A ∨ 0x61 ≤ c.toNat ∧ c.toNat ≤ 0x7A) :
    isCaseIgnorable c = false := by
  rw [isCaseIgnorable, inRanges, List.any_eq_false]
  intro range hrange
  have hascii := List.all_eq_true.mp caseIgnorableRanges_ascii range hrange
  simp only [Bool.or_eq_true, Bool.and_eq_true, Nat.blt_eq] at hascii
  simp only [Bool.and_eq_true, decide_eq_true_eq]
  omega

theorem isCaseIgnorable_toLower (c : Char) : isCaseIgnorable c.toLower = isCaseIgnorable c := by
  refine toLower_induction (P := fun c d => isCaseIgnorable d = isCaseIgnorable c) (fun k hk => ?_)
    (fun _ => rfl) c
  have hcapital := toNat_ofNat_of_isValidChar (n := 0x41 + k) (.inl (by omega))
  have hsmall := toNat_ofNat_of_isValidChar (n := 0x61 + k) (.inl (by omega))
  exact (isCaseIgnorable_ascii (.inr (by omega))).trans
    (isCaseIgnorable_ascii (.inl (by omega))).symm

theorem startsCased_map_toLower (s : List Char) :
    startsCased (s.map Char.toLower) = startsCased s := by
  have hp : isCaseIgnorable ∘ Char.toLower = isCaseIgnorable := funext isCaseIgnorable_toLower
  rw [startsCased, startsCased, List.dropWhile_map, hp]
  cases s.dropWhile isCaseIgnorable with
  | nil => rfl
  | cons c rest => exact isCased_toLower c

theorem formIn_toLower (before : List Char) (c : Char) (after : List Char) :
    formIn (before.map Char.toLower) c.toLower (after.map Char.toLower) =
      formIn before c after := by
  simp only [formIn, toLower_eq_sigma_iff, startsCased_map_toLower, lowerChar_toLower]

theorem lowercaseFrom_map_toLower (s : List Char) :
    ∀ before, lowercaseFrom (before.map Char.toLower) (s.map Char.toLower) =
      lowercaseFrom before s := by
  induction s with
  | nil => exact fun _ => rfl
  | cons c s ih =>
      intro before
      rw [List.map_cons, lowercaseFrom_cons, lowercaseFrom_cons, formIn_toLower, ← List.map_cons,
        ih]

theorem lowercase_map_toLower (s : List Char) : lowercase (s.map Char.toLower) = lowercase s :=
  lowercaseFrom_map_toLower s []

theorem trim_map_toLower (s : List Char) :
    trim (s.map Char.toLower) = (trim s).map Char.toLower := by
  have hp : isBlank ∘ Char.toLower = isBlank := funext isBlank_toLower
  simp only [trim, trimStart, trimEnd, List.dropWhile_map, ← List.map_reverse, hp]

end HostInventory.Text
