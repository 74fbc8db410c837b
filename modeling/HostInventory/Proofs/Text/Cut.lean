import HostInventory.Text.Blank
import HostInventory.Text.Cut

/-!
# Cutting text where it was put together

Text that was put together from pieces comes apart into the same pieces: at a mark that no piece
holds, at a blank, at the end of a line, and at the ends where nothing blank stands.
-/

namespace HostInventory.Text

variable {p : Char → Bool}

/-! ## At marks -/

theorem cutAt?_append {xs : List Char} {c : Char} (h : ∀ x ∈ xs, p x = false)
    (hc : p c = true) (ys : List Char) : cutAt? p (xs ++ c :: ys) = some (xs, ys) := by
  induction xs with
  | nil => simp [cutAt?, hc]
  | cons x xs ih =>
      obtain ⟨hx, hxs⟩ := List.forall_mem_cons.mp h
      simp [cutAt?, hx, ih hxs]

theorem cutAt?_of_all_not {xs : List Char} (h : ∀ x ∈ xs, p x = false) :
    cutAt? p xs = none := by
  induction xs with
  | nil => rfl
  | cons x xs ih =>
      obtain ⟨hx, hxs⟩ := List.forall_mem_cons.mp h
      simp [cutAt?, hx, ih hxs]

theorem afterPrefix?_append (mark s : List Char) : afterPrefix? mark (mark ++ s) = some s := by
  induction mark with
  | nil => rfl
  | cons m mark ih => simp [afterPrefix?, ih]

theorem cutAt?_concat {c : Char} (hc : p c = false) (xs : List Char) :
    cutAt? p (xs ++ [c]) =
      (cutAt? p xs).map fun (before, after) => (before, after ++ [c]) := by
  induction xs with
  | nil => simp [cutAt?, hc]
  | cons x xs ih =>
      by_cases hx : p x = true
      · simp [cutAt?, hx]
      · simp [cutAt?, hx, ih, Function.comp_def]

theorem splitFrom_append {c : Char} (hc : p c = true) (ys : List Char) :
    ∀ (xs piece : List Char),
      splitFrom p (xs ++ c :: ys) piece = splitFrom p xs piece ++ splitAt p ys
  | [], piece => by simp [splitFrom, splitAt, hc]
  | x :: xs, piece => by
      by_cases hx : p x = true
      · simp [splitFrom, hx, splitFrom_append hc ys xs]
      · simp [splitFrom, hx, splitFrom_append hc ys xs]

theorem splitFrom_of_all_not :
    ∀ (xs piece : List Char), (∀ x ∈ xs, p x = false) →
      splitFrom p xs piece = [piece.reverse ++ xs]
  | [], piece, _ => by simp [splitFrom]
  | x :: xs, piece, h => by
      obtain ⟨hx, hxs⟩ := List.forall_mem_cons.mp h
      simp [splitFrom, hx, splitFrom_of_all_not xs (x :: piece) hxs]

/-- No piece holds a mark. -/
theorem splitFrom_all_not :
    ∀ {xs piece : List Char}, (∀ c ∈ piece, p c = false) →
      ∀ s ∈ splitFrom p xs piece, ∀ c ∈ s, p c = false
  | [], piece, h, s, hs, c, hc => by
      rw [splitFrom, List.mem_singleton] at hs
      subst hs
      exact h c (List.mem_reverse.mp hc)
  | x :: xs, piece, h, s, hs, c, hc => by
      by_cases hx : p x = true
      · rw [splitFrom, if_pos hx] at hs
        rcases List.mem_cons.mp hs with rfl | hs
        · exact h c (List.mem_reverse.mp hc)
        · exact splitFrom_all_not (List.forall_mem_nil _) s hs c hc
      · rw [splitFrom, if_neg hx] at hs
        have hpiece : ∀ d ∈ x :: piece, p d = false :=
          List.forall_mem_cons.mpr ⟨Bool.eq_false_iff.mpr hx, h⟩
        exact splitFrom_all_not hpiece s hs c hc

theorem joinWith_cons {mark piece : List Char} {pieces : List (List Char)} (h : pieces ≠ []) :
    joinWith mark (piece :: pieces) = piece ++ mark ++ joinWith mark pieces := by
  cases pieces with
  | nil => exact absurd rfl h
  | cons next rest => rfl

theorem joinWith_concat {mark : List Char} {pieces : List (List Char)} (h : pieces ≠ [])
    (piece : List Char) :
    joinWith mark (pieces ++ [piece]) = joinWith mark pieces ++ mark ++ piece := by
  induction pieces with
  | nil => exact absurd rfl h
  | cons first rest ih =>
      by_cases hrest : rest = []
      · rw [hrest]
        rfl
      · rw [List.cons_append, joinWith_cons (List.append_ne_nil_of_left_ne_nil hrest _),
          ih hrest, joinWith_cons hrest]
        simp only [List.append_assoc]

/-- The first piece ends with the text, or at the first mark. -/
theorem exists_splitFrom_eq_cons :
    ∀ xs piece : List Char, ∃ first rest, splitFrom p xs piece = (piece.reverse ++ first) :: rest ∧
      (xs = first ∧ rest = [] ∨
        ∃ c after, xs = first ++ c :: after ∧ p c = true ∧ rest = splitAt p after)
  | [], piece => ⟨[], [], by rw [splitFrom, List.append_nil], .inl ⟨rfl, rfl⟩⟩
  | x :: xs, piece => by
      by_cases hx : p x = true
      · refine ⟨[], splitAt p xs, ?_, .inr ⟨x, xs, rfl, hx, rfl⟩⟩
        rw [splitFrom, if_pos hx, List.append_nil]
        rfl
      · obtain ⟨first, rest, hsplit, hends⟩ := exists_splitFrom_eq_cons xs (x :: piece)
        refine ⟨x :: first, rest, ?_, ?_⟩
        · rw [splitFrom, if_neg hx, hsplit, List.reverse_cons, List.append_assoc]
          rfl
        · rcases hends with ⟨rfl, hrest⟩ | ⟨c, after, rfl, hc, hrest⟩
          · exact .inl ⟨rfl, hrest⟩
          · exact .inr ⟨c, after, rfl, hc, hrest⟩

theorem splitFrom_ne_nil (xs piece : List Char) : splitFrom p xs piece ≠ [] := by
  obtain ⟨first, rest, hsplit, -⟩ := exists_splitFrom_eq_cons (p := p) xs piece
  rw [hsplit]
  exact List.cons_ne_nil _ _

/-- Joining undoes splitting. -/
theorem joinWith_splitFrom (c : Char) :
    ∀ xs piece : List Char, joinWith [c] (splitFrom (· == c) xs piece) = piece.reverse ++ xs
  | [], piece => by rw [splitFrom, joinWith, List.append_nil]
  | x :: xs, piece => by
      by_cases hx : x = c
      · rw [splitFrom, if_pos (beq_iff_eq.mpr hx), joinWith_cons (splitFrom_ne_nil xs []),
          joinWith_splitFrom c xs []]
        simp [hx]
      · rw [splitFrom, if_neg (by simpa using hx), joinWith_splitFrom c xs (x :: piece)]
        simp

theorem mem_joinWith {mark : List Char} {c : Char} :
    ∀ {pieces : List (List Char)}, c ∈ joinWith mark pieces →
      c ∈ mark ∨ ∃ piece ∈ pieces, c ∈ piece
  | [], h => by cases h
  | [piece], h => .inr ⟨piece, List.mem_singleton.mpr rfl, h⟩
  | piece :: next :: rest, h => by
      rw [joinWith, List.mem_append, List.mem_append] at h
      rcases h with (h | h) | h
      · exact .inr ⟨piece, List.mem_cons_self, h⟩
      · exact .inl h
      · refine (mem_joinWith h).imp_right ?_
        rintro ⟨piece', hmem, hc⟩
        exact ⟨piece', List.mem_cons_of_mem _ hmem, hc⟩
      · exact nofun

/-! ## At the ends -/

theorem dropEndWhile_concat {c : Char} (hc : p c = true) (xs : List Char) :
    dropEndWhile p (xs ++ [c]) = dropEndWhile p xs := by
  simp [dropEndWhile, hc]

theorem dropEndWhile_of_getLast? {xs : List Char} (h : ∀ c, xs.getLast? = some c → p c = false) :
    dropEndWhile p xs = xs := by
  rcases List.eq_nil_or_concat xs with rfl | ⟨front, c, rfl⟩
  · rfl
  · rw [List.concat_eq_append] at h ⊢
    have hc := h c (by simp)
    simp [dropEndWhile, hc]

theorem dropWhile_of_head? {xs : List Char} (h : ∀ c, xs.head? = some c → p c = false) :
    xs.dropWhile p = xs := by
  cases xs with
  | nil => rfl
  | cons c rest => simp [h c rfl]

/-- Whether nothing blank stands at the ends of a text. -/
structure IsTrimmed (s : List Char) : Prop where
  head : ∀ c, s.head? = some c → isBlank c = false
  last : ∀ c, s.getLast? = some c → isBlank c = false

theorem isTrimmed_of_all_not {s : List Char} (h : ∀ c ∈ s, isBlank c = false) : IsTrimmed s :=
  ⟨fun c hc => h c (List.mem_of_mem_head? hc), fun c hc => h c (List.mem_of_mem_getLast? hc)⟩

theorem isTrimmed_of_any_eq_false {s : List Char} (h : s.any isBlank = false) : IsTrimmed s :=
  isTrimmed_of_all_not fun c hc => Bool.eq_false_iff.mpr (List.any_eq_false.mp h c hc)

/-- A text is trimmed if the texts that it begins and ends with are. -/
theorem isTrimmed_append {first last : List Char} (hne : first ≠ []) (hfirst : IsTrimmed first)
    (between : List Char) (hne' : last ≠ []) (hlast : IsTrimmed last) :
    IsTrimmed (first ++ between ++ last) := by
  obtain ⟨x, rest, rfl⟩ := List.exists_cons_of_ne_nil hne
  refine ⟨hfirst.head, fun c hc => hlast.last c ?_⟩
  rw [List.getLast?_append, List.getLast?_eq_some_getLast hne'] at hc
  rw [List.getLast?_eq_some_getLast hne']
  exact hc

theorem trim_of_isTrimmed {s : List Char} (h : IsTrimmed s) : trim s = s := by
  rw [trim, trimStart, dropWhile_of_head? h.head]
  exact dropEndWhile_of_getLast? h.last

theorem trim_cons {c : Char} (hc : isBlank c = true) (s : List Char) : trim (c :: s) = trim s := by
  rw [trim, trimStart, List.dropWhile_cons_of_pos hc]
  rfl

theorem trim_append {pad : List Char} (h : isBlankText pad = true) (s : List Char) :
    trim (pad ++ s) = trim s := by
  induction pad with
  | nil => rfl
  | cons c pad ih =>
      obtain ⟨hc, hpad⟩ := Bool.and_eq_true_iff.mp h
      rw [List.cons_append, trim_cons hc, ih hpad]

theorem trim_concat {c : Char} (hc : isBlank c = true) (s : List Char) :
    trim (s ++ [c]) = trim s := by
  rw [trim, trim, trimStart, trimStart, List.dropWhile_append]
  split
  · rename_i hempty
    rw [List.isEmpty_iff.mp hempty]
    simp [hc]
  · exact dropEndWhile_concat hc _

theorem trim_append_blank {pad : List Char} (h : isBlankText pad = true) (s : List Char) :
    trim (s ++ pad) = trim s := by
  induction pad generalizing s with
  | nil => rw [List.append_nil]
  | cons c pad ih =>
      obtain ⟨hc, hpad⟩ := Bool.and_eq_true_iff.mp h
      rw [List.append_cons, ih hpad, trim_concat hc]

theorem head?_dropWhile_eq_some {xs : List Char} {c : Char} (h : (xs.dropWhile p).head? = some c) :
    p c = false := by
  have hnot := List.head?_dropWhile_not p xs
  rwa [h] at hnot

theorem isTrimmed_trim (s : List Char) : IsTrimmed (trim s) := by
  constructor
  · intro c hc
    have hprefix : trim s <+: trimStart s := by
      have hsuffix := List.dropWhile_suffix isBlank (l := (trimStart s).reverse)
      rwa [← List.reverse_prefix, List.reverse_reverse] at hsuffix
    obtain ⟨rest, hrest⟩ := hprefix
    have hhead : (s.dropWhile isBlank).head? = some c := by
      change (trimStart s).head? = some c
      rw [← hrest, List.head?_append, hc]
      rfl
    exact head?_dropWhile_eq_some hhead
  · intro c hc
    rw [trim, trimEnd, List.getLast?_reverse] at hc
    exact head?_dropWhile_eq_some hc

/-! ## At blanks -/

theorem wordsFrom_append {xs : List Char} (h : ∀ x ∈ xs, isBlank x = false) (rest : List Char) :
    ∀ word, wordsFrom (xs ++ rest) word = wordsFrom rest (xs.reverse ++ word) := by
  induction xs with
  | nil => exact fun _ => rfl
  | cons x xs ih =>
      obtain ⟨hx, hxs⟩ := List.forall_mem_cons.mp h
      intro word
      rw [List.cons_append, wordsFrom]
      simp [hx, ih hxs]

/-- A word is cut off at the blank behind it. -/
theorem words_append {word : List Char} (hne : word ≠ []) (h : ∀ x ∈ word, isBlank x = false)
    {c : Char} (hc : isBlank c = true) (rest : List Char) :
    words (word ++ c :: rest) = word :: words rest := by
  rw [words, wordsFrom_append h, wordsFrom]
  simp [hc, hne, words]

theorem words_of_all_not {word : List Char} (hne : word ≠ [])
    (h : ∀ x ∈ word, isBlank x = false) : words word = [word] := by
  have := wordsFrom_append h [] []
  rw [List.append_nil, List.append_nil] at this
  rw [words, this]
  cases hr : word.reverse with
  | nil => exact absurd (List.reverse_eq_nil_iff.mp hr) hne
  | cons c rest =>
      rw [wordsFrom, ← hr, List.reverse_reverse]
      exact nofun

/-! ## At line feeds -/

theorem linesFrom_append {xs : List Char} (h : '\n' ∉ xs) (rest : List Char) :
    ∀ line, linesFrom (xs ++ rest) line = linesFrom rest (xs.reverse ++ line) := by
  induction xs with
  | nil => exact fun _ => rfl
  | cons x xs ih =>
      obtain ⟨hx, hxs⟩ := not_or.mp (mt List.mem_cons.mpr h)
      intro line
      rw [List.cons_append, linesFrom, if_neg (Ne.symm hx), ih hxs]
      simp

/-- A line is cut off at the line feed behind it. -/
theorem lines_append {line : List Char} (h : '\n' ∉ line) (rest : List Char) :
    lines (line ++ '\n' :: rest) = dropReturn line :: lines rest := by
  rw [lines, linesFrom_append h, linesFrom, if_pos rfl, List.append_nil, List.reverse_reverse]
  rfl

theorem lines_of_not_mem {line : List Char} (hne : line ≠ []) (h : '\n' ∉ line) :
    lines line = [line] := by
  have hread := linesFrom_append h [] []
  rw [List.append_nil, List.append_nil] at hread
  rw [lines, hread]
  cases hr : line.reverse with
  | nil => exact absurd (List.reverse_eq_nil_iff.mp hr) hne
  | cons c rest =>
      rw [linesFrom, ← hr, List.reverse_reverse]
      exact nofun

/-- Lines with a line feed behind each come apart again. -/
theorem lines_flatMap {ls : List (List Char)} (h : ∀ l ∈ ls, '\n' ∉ l) :
    lines (ls.flatMap (· ++ ['\n'])) = ls.map dropReturn := by
  induction ls with
  | nil => rfl
  | cons l ls ih =>
      obtain ⟨hl, hls⟩ := List.forall_mem_cons.mp h
      rw [List.flatMap_cons, List.append_assoc, List.singleton_append, lines_append hl, ih hls]
      rfl

theorem dropReturn_of_getLast? {line : List Char} (h : line.getLast? ≠ some '\r') :
    dropReturn line = line :=
  if_neg h

theorem isBlankText_dropReturn (s : List Char) :
    isBlankText (dropReturn s) = isBlankText s := by
  unfold dropReturn
  split
  · rename_i hlast
    obtain ⟨front, rfl⟩ := List.getLast?_eq_some_iff.mp hlast
    have hreturn : isBlank '\r' = true := by decide
    simp [isBlankText, hreturn]
  · rfl

theorem lines_ne_nil {xs : List Char} (h : xs ≠ []) : lines xs ≠ [] := by
  have hfrom : ∀ (xs : List Char) {piece : List Char}, piece ≠ [] → linesFrom xs piece ≠ [] := by
    intro xs
    induction xs with
    | nil =>
        intro piece hpiece
        obtain ⟨c, rest, rfl⟩ := List.exists_cons_of_ne_nil hpiece
        exact List.cons_ne_nil _ _
    | cons x xs ih =>
        intro piece hpiece
        rw [linesFrom]
        split
        · exact List.cons_ne_nil _ _
        · exact ih (List.cons_ne_nil _ _)
  obtain ⟨x, rest, rfl⟩ := List.exists_cons_of_ne_nil h
  rw [lines, linesFrom]
  split
  · exact List.cons_ne_nil _ _
  · exact hfrom rest (List.cons_ne_nil _ _)

/-- Behind a line feed the lines begin anew. -/
theorem lines_append_lineFeed (xs ys : List Char) :
    lines (xs ++ '\n' :: ys) = lines (xs ++ ['\n']) ++ lines ys := by
  have hfrom : ∀ line, linesFrom (xs ++ '\n' :: ys) line =
      linesFrom (xs ++ ['\n']) line ++ lines ys := by
    induction xs with
    | nil => exact fun _ => rfl
    | cons x xs ih =>
        intro line
        rw [List.cons_append, List.cons_append, linesFrom, linesFrom]
        split
        · rw [ih, List.cons_append]
        · exact ih _
  exact hfrom []

/-- What does not heed a carriage return at the end sees the same lines when a line feed is put
behind a text, or one more that is empty. -/
theorem map_lines_concat_lineFeed {β : Type} {f : List Char → β}
    (hf : ∀ line, f (dropReturn line) = f line) (xs : List Char) :
    (lines (xs ++ ['\n'])).map f = (lines xs).map f ∨
      (lines (xs ++ ['\n'])).map f = (lines xs).map f ++ [f []] := by
  have hfrom : ∀ line, (linesFrom (xs ++ ['\n']) line).map f = (linesFrom xs line).map f ∨
      (linesFrom (xs ++ ['\n']) line).map f = (linesFrom xs line).map f ++ [f []] := by
    induction xs with
    | nil =>
        intro line
        cases line with
        | nil => exact .inr rfl
        | cons c line => exact .inl (congrArg ([·]) (hf _))
    | cons x xs ih =>
        intro line
        rw [List.cons_append, linesFrom, linesFrom]
        split
        · exact (ih []).imp (congrArg (_ :: ·)) (congrArg (_ :: ·))
        · exact ih _
  exact hfrom []

/-- The lines of a text of blanks are blank. -/
theorem isBlankText_of_mem_lines {xs : List Char} (h : isBlankText xs = true) :
    ∀ line ∈ lines xs, isBlankText line = true := by
  have hfrom : ∀ piece, isBlankText piece = true →
      ∀ line ∈ linesFrom xs piece, isBlankText line = true := by
    have hreverse : ∀ piece : List Char, isBlankText piece.reverse = isBlankText piece :=
      fun piece => List.all_reverse
    induction xs with
    | nil =>
        intro piece hpiece line hline
        cases piece with
        | nil => cases hline
        | cons c piece =>
            rw [List.mem_singleton.mp hline, hreverse, hpiece]
    | cons x xs ih =>
        obtain ⟨hx, hxs⟩ := Bool.and_eq_true_iff.mp h
        intro piece hpiece
        rw [linesFrom]
        split
        · refine List.forall_mem_cons.mpr ⟨?_, ih hxs [] rfl⟩
          rw [isBlankText_dropReturn, hreverse, hpiece]
        · exact ih hxs (x :: piece) (Bool.and_eq_true_iff.mpr ⟨hx, hpiece⟩)
  exact hfrom [] rfl

/-- Whether a text consists of lines, each with one of the two line ends; behind the last line the
line end may be missing. -/
inductive HasLines : List (List Char) → List Char → Prop
  | nil : HasLines [] []
  | unended {line : List Char} (hne : line ≠ []) (h : '\n' ∉ line) : HasLines [line] line
  | lineFeed {line : List Char} {ls : List (List Char)} {rest : List Char} (h : '\n' ∉ line)
      (hrest : HasLines ls rest) : HasLines (line :: ls) (line ++ '\n' :: rest)
  | carriageReturn {line : List Char} {ls : List (List Char)} {rest : List Char} (h : '\n' ∉ line)
      (hrest : HasLines ls rest) : HasLines (line :: ls) (line ++ '\r' :: '\n' :: rest)

theorem hasLines_flatMap {ls : List (List Char)} (h : ∀ l ∈ ls, '\n' ∉ l) :
    HasLines ls (ls.flatMap (· ++ ['\n'])) := by
  induction ls with
  | nil => exact .nil
  | cons l ls ih =>
      obtain ⟨hl, hls⟩ := List.forall_mem_cons.mp h
      rw [List.flatMap_cons, List.append_assoc, List.singleton_append]
      exact .lineFeed hl (ih hls)

/-- What does not heed a carriage return at the end sees the same lines, whichever line ends there
are. -/
theorem HasLines.map_lines {β : Type} {f : List Char → β}
    (hf : ∀ line, f (dropReturn line) = f line) {ls : List (List Char)} {text : List Char}
    (h : HasLines ls text) :
    (lines text).map f = ls.map f := by
  induction h with
  | nil => rfl
  | unended hne h => rw [lines_of_not_mem hne h]
  | lineFeed h _ ih => rw [lines_append h, List.map_cons, List.map_cons, hf, ih]
  | @carriageReturn line ls rest h _ ih =>
      have hline : '\n' ∉ line ++ ['\r'] := by simp [h]
      have htext : line ++ '\r' :: '\n' :: rest = (line ++ ['\r']) ++ '\n' :: rest := by simp
      have hdrop : dropReturn (line ++ ['\r']) = line := by simp [dropReturn]
      rw [htext, lines_append hline, hdrop, List.map_cons, List.map_cons, ih]

end HostInventory.Text
