import HostInventory.Proofs.Text.Cut

/-!
# What the ends of a line say

Readers of listings look at the words of a line and at what the line begins with, most of them
without the blanks around it. Words are separated at each blank (`words_append_blank`), so that
blanks at the ends of a line, the carriage return of a line end among them, take no word away and
add none.
-/

namespace HostInventory.Text

theorem isBlank_return : isBlank '\r' = true := by decide

/-- What does not heed a blank at the end does not heed a carriage return there. -/
theorem apply_dropReturn {β : Type} {f : List Char → β}
    (hf : ∀ s c, isBlank c = true → f (s ++ [c]) = f s) (line : List Char) :
    f (dropReturn line) = f line := by
  unfold dropReturn
  split
  · rename_i hlast
    obtain ⟨front, rfl⟩ := List.getLast?_eq_some_iff.mp hlast
    rw [List.dropLast_concat, hf front _ isBlank_return]
  · rfl

/-! ## Words -/

/-- The words before a blank and those behind it. -/
theorem words_append_blank {c : Char} (hc : isBlank c = true) (xs ys : List Char) :
    words (xs ++ c :: ys) = words xs ++ words ys := by
  have hfrom : ∀ word, wordsFrom (xs ++ c :: ys) word = wordsFrom xs word ++ words ys := by
    induction xs with
    | nil =>
        intro word
        cases word with
        | nil => simp [wordsFrom, hc, words]
        | cons d word => simp [wordsFrom, hc, words]
    | cons x xs ih =>
        intro word
        rw [List.cons_append, wordsFrom, wordsFrom, ih, ih]
        split
        · split <;> rfl
        · rfl
  exact hfrom []

theorem words_cons_blank {c : Char} (hc : isBlank c = true) (s : List Char) :
    words (c :: s) = words s :=
  words_append_blank hc [] s

theorem words_concat_blank {c : Char} (hc : isBlank c = true) (s : List Char) :
    words (s ++ [c]) = words s :=
  (words_append_blank hc s []).trans (List.append_nil _)

theorem words_of_isBlankText {s : List Char} (h : isBlankText s = true) : words s = [] := by
  induction s with
  | nil => rfl
  | cons c s ih =>
      obtain ⟨hc, hs⟩ := Bool.and_eq_true_iff.mp h
      rw [words_cons_blank hc, ih hs]

theorem words_dropReturn (line : List Char) : words (dropReturn line) = words line :=
  apply_dropReturn (fun s _ hc => words_concat_blank hc s) line

theorem words_trimStart (s : List Char) : words (trimStart s) = words s := by
  induction s with
  | nil => rfl
  | cons c s ih =>
      rw [trimStart, List.dropWhile_cons]
      split
      · rename_i hc
        rw [words_cons_blank hc]
        exact ih
      · rfl

theorem words_trimEnd (s : List Char) : words (trimEnd s) = words s := by
  have hreverse : ∀ r : List Char, words (r.dropWhile isBlank).reverse = words r.reverse := by
    intro r
    induction r with
    | nil => rfl
    | cons c r ih =>
        rw [List.dropWhile_cons]
        split
        · rename_i hc
          rw [ih, List.reverse_cons, words_concat_blank hc]
        · rfl
  have h := hreverse s.reverse
  rwa [List.reverse_reverse] at h

theorem words_trim (s : List Char) : words (trim s) = words s := by
  rw [trim, words_trimEnd, words_trimStart]

theorem trim_dropReturn (line : List Char) : trim (dropReturn line) = trim line :=
  apply_dropReturn (fun s _ hc => trim_concat hc s) line

/-! ## Beginnings -/

theorem hasPrefix_iff {mark s : List Char} : hasPrefix mark s = true ↔ mark <+: s := by
  induction mark generalizing s with
  | nil => simp [hasPrefix, afterPrefix?]
  | cons m mark ih =>
      cases s with
      | nil => simp [hasPrefix, afterPrefix?]
      | cons c s =>
          rw [List.cons_prefix_cons, ← ih, hasPrefix, afterPrefix?]
          split
          · rename_i hm
            simp [hm, hasPrefix]
          · rename_i hm
            simp [hm]

theorem hasPrefix_dropReturn {mark : List Char} (h : '\r' ∉ mark) (line : List Char) :
    hasPrefix mark (dropReturn line) = hasPrefix mark line := by
  unfold dropReturn
  split
  · rename_i hlast
    obtain ⟨front, rfl⟩ := List.getLast?_eq_some_iff.mp hlast
    rw [List.dropLast_concat, Bool.eq_iff_iff, hasPrefix_iff, hasPrefix_iff, List.prefix_concat_iff]
    refine ⟨.inr, ?_⟩
    rintro (rfl | hfront)
    · exact absurd (List.mem_append_right front (List.mem_singleton.mpr rfl)) h
    · exact hfront
  · rfl

/-- A beginning without a character ends before that character. -/
theorem prefix_of_prefix_append {c : Char} {ys : List Char} :
    ∀ {mark xs : List Char}, c ∉ mark → mark <+: xs ++ c :: ys → mark <+: xs
  | [], _, _, _ => List.nil_prefix
  | m :: mark, [], hc, h => by
      rw [List.nil_append, List.cons_prefix_cons] at h
      exact absurd (h.1 ▸ List.mem_cons_self) hc
  | m :: mark, x :: xs, hc, h => by
      rw [List.cons_append, List.cons_prefix_cons] at h
      have hrest := prefix_of_prefix_append (mt (List.mem_cons_of_mem m) hc) h.2
      exact List.cons_prefix_cons.mpr ⟨h.1, hrest⟩

end HostInventory.Text
