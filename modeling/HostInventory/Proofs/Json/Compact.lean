import HostInventory.Proofs.Json.PlainObject
import Mathlib.Tactic.ByContra
import Mathlib.Tactic.SplitIfs

/-!
# Compact text read back

The compact text of a value is read as that value, as long as every string in it is text. Each
construct of a value has a lemma of its own, over any characters that follow; what follows a number
must not continue it, which no mark of an array or an object does. The length of a text is fuel
enough, since each level of nesting takes a character.
-/

namespace HostInventory.Json

/-- Every string in a value is text, the names of members included. -/
inductive Legible : Json → Prop where
  | null : Legible .null
  | bool (b : Bool) : Legible (.bool b)
  | number (n : Number) : Legible (.number n)
  | text (s : String) : Legible (.text s)
  | array {items : List Json} (h : ∀ j ∈ items, Legible j) : Legible (.array items)
  | record {members : List (String × Json)} (h : ∀ m ∈ members, Legible m.2) :
      Legible (.record members)

/-! ## Strings -/

theorem hexValue?_hexDigit {n : Nat} (h : n < 16) : hexValue? (hexDigit n) = some n := by
  have : ∀ m, m < 16 → hexValue? (hexDigit m) = some m := by decide
  exact this n h

theorem hexValue4?_hexDigit {n : Nat} (h : n < 0x20) :
    hexValue4? '0' '0' (hexDigit (n / 16)) (hexDigit (n % 16)) = some n := by
  have hzero : hexValue? '0' = some 0 := by decide
  simp only [hexValue4?, hzero, hexValue?_hexDigit (show n / 16 < 16 by omega),
    hexValue?_hexDigit (Nat.mod_lt n (by decide : 0 < 16)), Option.bind_eq_bind, Option.bind_some,
    Option.pure_def, Option.some.injEq]
  omega

/-- What is written for a character is read as that character. -/
theorem readString_escapeChar (c : Char) (rest : List Char) :
    readString none (escapeChar c ++ rest) = (readString none rest).push c := by
  unfold escapeChar
  split_ifs with hquote hback hb hf hn hr ht hlow
  · subst hquote
    rfl
  · subst hback
    rfl
  · subst hb
    rfl
  · subst hf
    rfl
  · subst hn
    rfl
  · subst hr
    rfl
  · subst ht
    rfl
  · have hhigh : isHighSurrogate c.toNat = false := by
      simp only [isHighSurrogate, Bool.and_eq_false_iff, decide_eq_false_iff_not]
      omega
    have hlast : isLowSurrogate c.toNat = false := by
      simp only [isLowSurrogate, Bool.and_eq_false_iff, decide_eq_false_iff_not]
      omega
    simp only [List.cons_append, List.nil_append]
    rw [readString.eq_def]
    simp only [hexValue4?_hexDigit hlow, hhigh, hlast, Bool.false_eq_true, if_false,
      Char.ofNat_toNat]
  · have hplain : isPlain c = true := by
      simp [isPlain, hquote, hback, Nat.not_lt.mp hlow]
    exact readString_cons_plain hplain rest

theorem readString_flatMap_escapeChar (text rest : List Char) :
    readString none (text.flatMap escapeChar ++ '"' :: rest) = some (some text, rest) := by
  induction text with
  | nil => rfl
  | cons c text ih =>
      rw [List.flatMap_cons, List.append_assoc, readString_escapeChar, ih]
      rfl

/-! ## Numbers -/

/-- What follows a number and does not continue it. -/
def EndsNumber (rest : List Char) : Prop :=
  ∀ c ∈ rest.head?, Decimal.isDigit c = false ∧ c ≠ '.' ∧ c ≠ 'e' ∧ c ≠ 'E'

theorem endsNumber_nil : EndsNumber [] :=
  fun _ h => nomatch h

theorem endsNumber_cons {c : Char} (h : c ∈ [',', ']', '\x7d']) (rest : List Char) :
    EndsNumber (c :: rest) := by
  intro d hd
  obtain rfl := Option.some.inj hd
  simp only [List.mem_cons, List.not_mem_nil, or_false] at h
  rcases h with rfl | rfl | rfl <;> decide

theorem spanDigits_append {ds rest : List Char} (hds : ∀ c ∈ ds, Decimal.isDigit c = true)
    (hrest : ∀ c ∈ rest.head?, Decimal.isDigit c = false) :
    spanDigits (ds ++ rest) = (ds, rest) := by
  induction ds with
  | nil =>
      cases rest with
      | nil => rfl
      | cons c rest => rw [List.nil_append, spanDigits, hrest c rfl]; rfl
  | cons c ds ih =>
      obtain ⟨hc, hds⟩ := List.forall_mem_cons.mp hds
      rw [List.cons_append, spanDigits, hc, ih hds]
      rfl

theorem digits_ne_nil (n : Nat) : Decimal.digits n ≠ [] := by
  by_cases h : n < 10
  · simp [Decimal.digits_of_lt h]
  · simp [Decimal.digits_of_ge (Nat.not_lt.mp h)]

theorem digits_eq_cons (n : Nat) :
    ∃ d ds, Decimal.digits n = d :: ds ∧ Decimal.isDigit d = true := by
  cases hds : Decimal.digits n with
  | nil => exact absurd hds (digits_ne_nil n)
  | cons d ds => exact ⟨d, ds, rfl, Decimal.isDigit_of_mem_digits (hds ▸ List.mem_cons_self)⟩

/-- No needless zero stands in front. -/
theorem head?_digits {n : Nat} (h : n ≠ 0) : (Decimal.digits n).head? ≠ some '0' := by
  induction n using Nat.strongRecOn with
  | ind n ih =>
    by_cases hn : n < 10
    · have hdigit : ∀ m, m < 10 → m ≠ 0 → Decimal.digit m ≠ '0' := by decide
      simpa [Decimal.digits_of_lt hn] using hdigit n hn h
    · have hge : 10 ≤ n := Nat.not_lt.mp hn
      rw [Decimal.digits_of_ge hge, List.head?_append, List.head?_eq_some_head (digits_ne_nil _)]
      rw [Option.some_or, ← List.head?_eq_some_head (digits_ne_nil _)]
      exact ih (n / 10) (by omega) (by omega)

theorem readWhole_digits (n : Nat) {rest : List Char}
    (hrest : ∀ c ∈ rest.head?, Decimal.isDigit c = false) :
    readWhole (Decimal.digits n ++ rest) = some (Decimal.digits n, rest) := by
  have hspan := spanDigits_append (fun c hc => Decimal.isDigit_of_mem_digits (n := n) hc) hrest
  rw [readWhole, hspan]
  split
  · rename_i heq
    exact absurd (Prod.mk.inj heq).1 (digits_ne_nil n)
  · rename_i heq
    have hdigits := (Prod.mk.inj heq).1
    -- two digits with a zero in front are written for no number
    have hzero : n = 0 := by
      by_contra hn
      exact head?_digits hn (by rw [hdigits]; rfl)
    rw [hzero] at hdigits
    exact absurd hdigits (by simp [Decimal.digits_of_lt])
  · rename_i heq
    rw [heq]

theorem readFraction_of_head? {rest : List Char} (h : rest.head? ≠ some '.') :
    readFraction rest = some (none, rest) := by
  rw [readFraction.eq_def]
  split
  · exact absurd rfl h
  · rfl

theorem readExponent_of_endsNumber {rest : List Char} (h : EndsNumber rest) :
    readExponent rest = some (none, rest) := by
  cases rest with
  | nil => rfl
  | cons c rest =>
      obtain ⟨-, -, he, hE⟩ := h c rfl
      simp [readExponent, he, hE]

theorem digits_append_ne (n : Nat) (rest : List Char) {c : Char}
    (hc : Decimal.isDigit c = false) (cs : List Char) : Decimal.digits n ++ rest ≠ c :: cs := by
  obtain ⟨d, ds, hds, hd⟩ := digits_eq_cons n
  rw [hds]
  intro heq
  rw [(List.cons.inj heq).1, hc] at hd
  cases hd

/-- A sign in front of digits is told from the digits. -/
theorem readNumber_digits (negative : Bool) (n : Nat) {rest : List Char}
    (hdigit : ∀ c ∈ rest.head?, Decimal.isDigit c = false) (hdot : rest.head? ≠ some '.') :
    readNumber ((if negative then ['-'] else []) ++ (Decimal.digits n ++ rest)) =
      (readExponent rest).map fun (exponent, rest) =>
        match exponent with
        | none =>
          (if negative then if n = 0 then .scaled true 0 0 else .whole (-n) else .whole n, rest)
        | some e => (.scaled negative n e, rest) := by
  have hsign : ∀ cs, Decimal.digits n ++ rest ≠ '-' :: cs := digits_append_ne n rest (by decide)
  have hwhole := readWhole_digits n hdigit
  have hfraction := readFraction_of_head? hdot
  rcases hexponent : readExponent rest with _ | ⟨_ | e, rest'⟩ <;> cases negative <;>
    simp [readNumber, hwhole, hfraction, hexponent, Decimal.value_digits]
  split <;> rfl

theorem wholeChars_eq (n : Int) :
    wholeChars n = (if n < 0 then ['-'] else []) ++ Decimal.digits n.natAbs := by
  cases n with
  | ofNat n => rfl
  | negSucc n => rw [if_pos (Int.negSucc_lt_zero n)]; rfl

theorem readExponent_wholeChars (n : Int) {rest : List Char}
    (hdigit : ∀ c ∈ rest.head?, Decimal.isDigit c = false) :
    readExponent ('e' :: (wholeChars n ++ rest)) = some (some n, rest) := by
  have hminus : ∀ cs, Decimal.digits n.natAbs ++ rest ≠ '-' :: cs :=
    digits_append_ne _ rest (by decide)
  have hplus : ∀ cs, Decimal.digits n.natAbs ++ rest ≠ '+' :: cs :=
    digits_append_ne _ rest (by decide)
  have hspan := spanDigits_append
    (fun c hc => Decimal.isDigit_of_mem_digits (n := n.natAbs) hc) hdigit
  have hne := digits_ne_nil n.natAbs
  rw [wholeChars_eq]
  by_cases hn : n < 0
  · have hsize : -(n.natAbs : Int) = n := by omega
    simp only [readExponent, hn, if_true, Char.reduceEq, or_false, List.cons_append,
      List.nil_append, hspan, Decimal.value_digits, hsize]
  · have hsize : (n.natAbs : Int) = n := by omega
    simp only [readExponent, hn, if_true, if_false, Char.reduceEq, or_false, List.nil_append,
      hspan, Decimal.value_digits, Bool.false_eq_true, hsize]

/-- What is written for a number is read as that number, if nothing continues it. -/
theorem readNumber_chars (n : Number) {rest : List Char} (h : EndsNumber rest) :
    readNumber (n.chars ++ rest) = some (n, rest) := by
  have hdigit : ∀ c ∈ rest.head?, Decimal.isDigit c = false := fun c hc => (h c hc).1
  cases n with
  | whole n =>
      have hdot : rest.head? ≠ some '.' := fun hc => (h _ hc).2.1 rfl
      have hread := readNumber_digits (decide (n < 0)) n.natAbs hdigit hdot
      rw [readExponent_of_endsNumber h] at hread
      simp only [decide_eq_true_eq, ← List.append_assoc, ← wholeChars_eq] at hread
      have hsize : (if n < 0 then if n.natAbs = 0 then Number.scaled true 0 0
          else .whole (-n.natAbs) else .whole n.natAbs) = .whole n := by
        by_cases hn : n < 0
        · rw [if_pos hn, if_neg (by omega), show -(n.natAbs : Int) = n by omega]
        · rw [if_neg hn, show (n.natAbs : Int) = n by omega]
      rw [Number.chars, hread, Option.map_some]
      simp only [hsize]
  | scaled negative digits exponent =>
      have hmark : ∀ c ∈ ('e' :: (wholeChars exponent ++ rest)).head?,
          Decimal.isDigit c = false := by
        simp only [List.head?_cons, Option.mem_def, Option.some.injEq, forall_eq']
        decide
      have hread := readNumber_digits negative digits hmark (by simp)
      rw [readExponent_wholeChars exponent hdigit] at hread
      simpa [Number.chars] using hread

/-! ## Values -/

/-- The compact text of a value is read as the value, whatever follows it that does not continue
a number. -/
def ReadsBack (j : Json) : Prop :=
  ∀ (fuel : Nat) (rest : List Char), (compactChars j).length < fuel → EndsNumber rest →
    readValue fuel (compactChars j ++ rest) = some (j, rest)

/-- A text takes at least one character, so there is fuel for one level. -/
theorem ReadsBack.of_succ {j : Json}
    (h : ∀ (fuel : Nat) (rest : List Char), (compactChars j).length ≤ fuel → EndsNumber rest →
      readValue (fuel + 1) (compactChars j ++ rest) = some (j, rest)) : ReadsBack j := by
  intro fuel rest hfuel hrest
  obtain ⟨fuel, rfl⟩ : ∃ f, fuel = f + 1 := ⟨fuel - 1, by omega⟩
  exact h fuel rest (Nat.le_of_lt_succ hfuel) hrest

/-- A character that can start a value: no blank and no end of an array. -/
def StartsValue (c : Char) : Prop :=
  c ∉ [' ', '\n', '\t', '\r', ']']

instance (c : Char) : Decidable (StartsValue c) :=
  inferInstanceAs (Decidable (c ∉ _))

theorem number_chars_eq_cons (n : Number) :
    ∃ c cs, n.chars = c :: cs ∧ (c = '-' ∨ Decimal.isDigit c = true) := by
  cases n with
  | whole n =>
      obtain ⟨d, ds, hds, hd⟩ := digits_eq_cons n.natAbs
      by_cases hn : n < 0
      · exact ⟨'-', d :: ds, by simp [Number.chars, wholeChars_eq, hn, hds], .inl rfl⟩
      · exact ⟨d, ds, by simp [Number.chars, wholeChars_eq, hn, hds], .inr hd⟩
  | scaled negative digits exponent =>
      obtain ⟨d, ds, hds, hd⟩ := digits_eq_cons digits
      cases negative with
      | true => exact ⟨'-', _, rfl, .inl rfl⟩
      | false => exact ⟨d, ds ++ 'e' :: wholeChars exponent, by simp [Number.chars, hds], .inr hd⟩

/-- A value starts with a character that no reader skips or takes for an end. -/
theorem compactChars_eq_cons (j : Json) : ∃ c cs, compactChars j = c :: cs ∧ StartsValue c := by
  cases j with
  | null => exact ⟨'n', _, rfl, by decide⟩
  | bool b => cases b <;> exact ⟨_, _, rfl, by decide⟩
  | number n =>
      obtain ⟨c, cs, heq, hc⟩ := number_chars_eq_cons n
      refine ⟨c, cs, heq, ?_⟩
      intro hmem
      simp only [List.mem_cons, List.not_mem_nil, or_false] at hmem
      rcases hmem with rfl | rfl | rfl | rfl | rfl <;> revert hc <;> decide
  | string s => exact ⟨'"', _, rfl, by decide⟩
  | array items => cases items <;> exact ⟨'[', _, rfl, by decide⟩
  | object members =>
      rcases members with _ | ⟨⟨name, value⟩, members⟩ <;>
        exact ⟨'\x7b', _, rfl, by decide⟩

theorem skipBlank_cons {c : Char} (h : c ∉ [' ', '\n', '\t', '\r']) (rest : List Char) :
    skipBlank (c :: rest) = c :: rest := by
  rw [skipBlank, if_neg (by simpa using h)]

theorem skipBlank_compactChars (j : Json) (rest : List Char) :
    skipBlank (compactChars j ++ rest) = compactChars j ++ rest := by
  obtain ⟨c, cs, heq, hc⟩ := compactChars_eq_cons j
  rw [heq, List.cons_append, skipBlank_cons]
  intro hmem
  exact hc (List.mem_append_left _ hmem)

theorem readValue_number {c : Char} (hc : c = '-' ∨ Decimal.isDigit c = true) (fuel : Nat)
    (cs : List Char) :
    readValue (fuel + 1) (c :: cs) =
      (readNumber (c :: cs)).map fun (n, rest) => (.number n, rest) := by
  have hother : c ∉ ['n', 't', 'f', '"', '[', '\x7b'] := by
    intro hmem
    simp only [List.mem_cons, List.not_mem_nil, or_false] at hmem
    rcases hmem with rfl | rfl | rfl | rfl | rfl | rfl <;> revert hc <;> decide
  simp only [List.mem_cons, List.not_mem_nil, or_false, not_or] at hother
  obtain ⟨hn, ht, hf, hquote, hbracket, hbrace⟩ := hother
  rw [readValue.eq_def]
  simp [hn, ht, hf, hquote, hbracket, hbrace]

theorem readsBack_number (n : Number) : ReadsBack (.number n) := by
  refine .of_succ fun fuel rest _ hrest => ?_
  have hread := readNumber_chars n hrest
  obtain ⟨c, cs, heq, hc⟩ := number_chars_eq_cons n
  rw [heq, List.cons_append] at hread
  rw [compactChars, heq, List.cons_append, readValue_number hc, hread, Option.map_some]

theorem readsBack_null : ReadsBack .null := by
  refine .of_succ fun fuel rest _ _ => ?_
  simp [compactChars, readValue]

theorem readsBack_bool (b : Bool) : ReadsBack (.bool b) := by
  refine .of_succ fun fuel rest _ _ => ?_
  cases b <;> simp [compactChars, readValue]

theorem readsBack_text (s : String) : ReadsBack (.text s) := by
  refine .of_succ fun fuel rest _ _ => ?_
  have hs : compactChars (.text s) ++ rest =
      '"' :: (s.toList.flatMap escapeChar ++ '"' :: rest) := by
    simp [compactChars, looseChars, stringChars]
  rw [hs, readValue, readString_flatMap_escapeChar]
  simp

theorem endsNumber_compactItems (items : List Json) (rest : List Char) :
    EndsNumber (compactItems items ++ rest) := by
  cases items <;> exact endsNumber_cons (by decide) _

theorem readItems_compact {item : Json} {items : List Json} (h : ∀ j ∈ item :: items, ReadsBack j)
    {fuel : Nat} (hfuel : (compactChars item ++ compactItems items).length < fuel)
    (rest : List Char) :
    readItems fuel (compactChars item ++ (compactItems items ++ rest)) =
      some (item :: items, rest) := by
  induction items generalizing item fuel with
  | nil =>
      obtain ⟨hitem, -⟩ := List.forall_mem_cons.mp h
      obtain ⟨fuel, rfl⟩ : ∃ f, fuel = f + 1 := ⟨fuel - 1, by omega⟩
      simp only [compactItems, List.length_append, List.length_cons, List.length_nil] at hfuel
      rw [readItems, skipBlank_compactChars,
        hitem fuel _ (by omega) (endsNumber_compactItems [] rest)]
      simp [compactItems, skipBlank_cons]
  | cons next items ih =>
      obtain ⟨hitem, hitems⟩ := List.forall_mem_cons.mp h
      obtain ⟨fuel, rfl⟩ : ∃ f, fuel = f + 1 := ⟨fuel - 1, by omega⟩
      simp only [compactItems, List.length_append, List.length_cons] at hfuel
      have hlen : (compactChars next ++ compactItems items).length < fuel := by
        rw [List.length_append]
        omega
      have hmore := ih hitems hlen
      rw [readItems, skipBlank_compactChars,
        hitem fuel _ (by omega) (endsNumber_compactItems (next :: items) rest)]
      simp [compactItems, skipBlank_cons, hmore]

theorem readsBack_array {items : List Json} (h : ∀ j ∈ items, ReadsBack j) :
    ReadsBack (.array items) := by
  refine .of_succ fun fuel rest hfuel _ => ?_
  cases items with
  | nil => simp [compactChars, readValue, skipBlank_cons]
  | cons item items =>
      have hlen : (compactChars item ++ compactItems items).length < fuel := by
        simpa [compactChars, Nat.succ_le_iff] using hfuel
      have hitems := readItems_compact h hlen rest
      obtain ⟨c, cs, heq, hc⟩ := compactChars_eq_cons item
      have hend : c ≠ ']' := fun hc' => hc (by simp [hc'])
      rw [compactChars, List.cons_append, List.append_assoc, readValue, skipBlank_compactChars]
      simp only [heq, List.cons_append] at hitems ⊢
      simp [hitems, hend]

/-- A member as it is written, name and value. -/
def memberChars (m : String × Json) : List Char :=
  looseChars (some m.1) ++ ':' :: compactChars m.2

/-- The members after the first of an object, as they are written. -/
def moreChars (members : List (String × Json)) : List Char :=
  compactMembers (members.map fun m => (some m.1, m.2))

/-- A member is read, and then more members after a comma or the end of the object. -/
theorem readMembers_memberChars {m : String × Json} (h : ReadsBack m.2) {fuel : Nat}
    (hfuel : (compactChars m.2).length < fuel) (rest : List Char) :
    readMembers (fuel + 1) (memberChars m ++ ',' :: rest) =
        (readMembers fuel rest).map (fun r => ((some m.1, m.2) :: r.1, r.2)) ∧
      readMembers (fuel + 1) (memberChars m ++ '\x7d' :: rest) =
        some ([(some m.1, m.2)], rest) := by
  have hs : ∀ tail, memberChars m ++ tail =
      '"' :: (m.1.toList.flatMap escapeChar ++ '"' :: (':' :: (compactChars m.2 ++ tail))) := by
    simp [memberChars, looseChars, stringChars]
  have hvalue : ∀ c ∈ [',', ']', '\x7d'], readValue fuel (compactChars m.2 ++ c :: rest) =
      some (m.2, c :: rest) := fun c hc => h fuel _ hfuel (endsNumber_cons hc rest)
  constructor
  · rw [hs, readMembers, skipBlank_cons (by decide)]
    simp only [readString_flatMap_escapeChar, skipBlank_cons (c := ':') (by decide),
      skipBlank_compactChars, hvalue ',' (by decide), skipBlank_cons (c := ',') (by decide),
      Option.map_some, String.ofList_toList]
  · rw [hs, readMembers, skipBlank_cons (by decide)]
    simp only [readString_flatMap_escapeChar, skipBlank_cons (c := ':') (by decide),
      skipBlank_compactChars, hvalue '\x7d' (by decide), skipBlank_cons (c := '\x7d') (by decide),
      Option.map_some, String.ofList_toList]

theorem readMembers_compact {m : String × Json} {members : List (String × Json)}
    (h : ∀ m' ∈ m :: members, ReadsBack m'.2) {fuel : Nat}
    (hfuel : (memberChars m ++ moreChars members).length < fuel) (rest : List Char) :
    readMembers fuel (memberChars m ++ (moreChars members ++ rest)) =
      some ((m :: members).map fun m => (some m.1, m.2), rest) := by
  induction members generalizing m fuel with
  | nil =>
      obtain ⟨hm, -⟩ := List.forall_mem_cons.mp h
      obtain ⟨fuel, rfl⟩ : ∃ f, fuel = f + 1 := ⟨fuel - 1, by omega⟩
      have hend : moreChars [] = ['\x7d'] := rfl
      have hlen : (compactChars m.2).length < fuel := by
        simp only [hend, memberChars, List.length_append, List.length_cons] at hfuel
        omega
      rw [hend, List.singleton_append, (readMembers_memberChars hm hlen rest).2]
      rfl
  | cons next members ih =>
      obtain ⟨hm, hmembers⟩ := List.forall_mem_cons.mp h
      obtain ⟨fuel, rfl⟩ : ∃ f, fuel = f + 1 := ⟨fuel - 1, by omega⟩
      have hmore : moreChars (next :: members) =
          ',' :: (memberChars next ++ moreChars members) := by
        simp [moreChars, compactMembers, memberChars]
      rw [hmore] at hfuel ⊢
      have hlen : (compactChars m.2).length < fuel := by
        simp only [memberChars, List.length_append, List.length_cons] at hfuel
        omega
      have hrestlen : (memberChars next ++ moreChars members).length < fuel := by
        simp only [List.length_append, List.length_cons] at hfuel ⊢
        omega
      have hread := ih hmembers hrestlen
      rw [List.cons_append, List.append_assoc, (readMembers_memberChars hm hlen _).1, hread]
      rfl

theorem readsBack_record {members : List (String × Json)} (h : ∀ m ∈ members, ReadsBack m.2) :
    ReadsBack (.record members) := by
  refine .of_succ fun fuel rest hfuel _ => ?_
  cases members with
  | nil => simp [record, compactChars, readValue, skipBlank_cons]
  | cons m members =>
      have hchars : compactChars (.record (m :: members)) =
          '\x7b' :: (memberChars m ++ moreChars members) := by
        simp [record, compactChars, memberChars, moreChars]
      rw [hchars] at hfuel ⊢
      have hread := readMembers_compact h (Nat.lt_of_succ_le hfuel) rest
      obtain ⟨cs, hcs⟩ : ∃ cs, memberChars m = '"' :: cs := ⟨_, rfl⟩
      rw [List.cons_append, List.append_assoc, readValue]
      rw [hcs, List.cons_append] at hread ⊢
      rw [skipBlank_cons (by decide)]
      simp [hread, record]

/-! ## Texts -/

theorem Legible.readsBack {j : Json} (h : j.Legible) : ReadsBack j := by
  induction h with
  | null => exact readsBack_null
  | bool b => exact readsBack_bool b
  | number n => exact readsBack_number n
  | text s => exact readsBack_text s
  | array _ ih => exact readsBack_array ih
  | record _ ih => exact readsBack_record ih

/-- The compact text of a value whose strings are text is read as this value. -/
theorem Legible.parse?_compact {j : Json} (h : j.Legible) : parse? j.compact = some j := by
  have hread := h.readsBack ((compactChars j).length + 1) [] (by omega) endsNumber_nil
  rw [List.append_nil] at hread
  have hskip := skipBlank_compactChars j []
  rw [List.append_nil] at hskip
  rw [parse?, compact, String.toList_ofList, hskip, hread]
  rfl

end HostInventory.Json
