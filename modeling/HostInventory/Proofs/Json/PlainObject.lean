import HostInventory.Json.Codec
import HostInventory.Proofs.Text.Cut

/-!
# Objects of plain strings

An object that was put together from texts without any escape is read as these texts, as long as
none of their characters needs one. That is how a program prints an object that knows nothing of
JSON.
-/

namespace HostInventory.Json

/-- Whether a character stands for itself in a string. -/
def isPlain (c : Char) : Bool :=
  c != '"' && c != '\\' && decide (0x20 ≤ c.toNat)

/-- A text in quotes, as it is. -/
def plainString (text : List Char) : List Char :=
  '"' :: (text ++ ['"'])

/-- A member of an object, name and value as they are. -/
def plainMember (member : List Char × List Char) : List Char :=
  plainString member.1 ++ ':' :: plainString member.2

/-- An object of members, names and values as they are. -/
def plainObject (members : List (List Char × List Char)) : List Char :=
  '\x7b' :: (Text.joinWith [','] (members.map plainMember) ++ ['\x7d'])

/-- The value that an object of plain members stands for. -/
def plainValue (members : List (List Char × List Char)) : Json :=
  record (members.map fun m => (String.ofList m.1, .text (String.ofList m.2)))

/-- Whether names and values need no escape. -/
def MembersPlain (members : List (List Char × List Char)) : Prop :=
  ∀ m ∈ members, (∀ c ∈ m.1, isPlain c = true) ∧ ∀ c ∈ m.2, isPlain c = true

/-- A character that stands for itself is read as such. -/
theorem readString_cons_plain {c : Char} (h : isPlain c = true) (rest : List Char) :
    readString none (c :: rest) = (readString none rest).push c := by
  simp only [isPlain, Bool.and_eq_true, bne_iff_ne, decide_eq_true_eq] at h
  obtain ⟨⟨hquote, hback⟩, hlow⟩ := h
  rw [readString.eq_def]
  split
  · rename_i heq
    cases heq
  · rename_i heq
    exact absurd (List.cons.inj heq).1 hquote
  · rename_i heq
    exact absurd (List.cons.inj heq).1 hback
  · rename_i heq
    exact absurd (List.cons.inj heq).1 hback
  · rename_i heq
    obtain ⟨rfl, rfl⟩ := List.cons.inj heq
    rw [if_neg (by simp [hback, Nat.not_lt.mpr hlow])]
    rfl

theorem readString_plain {text : List Char} (h : ∀ c ∈ text, isPlain c = true)
    (rest : List Char) : readString none (text ++ '"' :: rest) = some (some text, rest) := by
  induction text with
  | nil => rfl
  | cons c text ih =>
      obtain ⟨hc, htext⟩ := List.forall_mem_cons.mp h
      rw [List.cons_append, readString_cons_plain hc, ih htext]
      rfl

theorem skipBlank_quote (rest : List Char) : skipBlank ('"' :: rest) = '"' :: rest := by
  simp [skipBlank]

theorem readValue_plainString {text : List Char} (h : ∀ c ∈ text, isPlain c = true) (fuel : Nat)
    (rest : List Char) :
    readValue (fuel + 1) (plainString text ++ rest) = some (.text (String.ofList text), rest) := by
  have hs : plainString text ++ rest = '"' :: (text ++ '"' :: rest) := by simp [plainString]
  rw [hs, readValue, readString_plain h]
  rfl

/-- A member is read, with whatever follows it. -/
theorem readMembers_plainMember {m : List Char × List Char}
    (hname : ∀ c ∈ m.1, isPlain c = true) (hvalue : ∀ c ∈ m.2, isPlain c = true) (fuel : Nat)
    (rest : List Char) :
    readMembers (fuel + 2) (plainMember m ++ rest) =
      match skipBlank rest with
      | ',' :: rest =>
        (readMembers (fuel + 1) rest).map fun (members, rest) =>
          ((some (String.ofList m.1), .text (String.ofList m.2)) :: members, rest)
      | '\x7d' :: rest => some ([(some (String.ofList m.1), .text (String.ofList m.2))], rest)
      | _ => none := by
  have hs : plainMember m ++ rest =
      '"' :: (m.1 ++ '"' :: (':' :: (plainString m.2 ++ rest))) := by
    simp [plainMember, plainString]
  have hcolon : skipBlank (':' :: (plainString m.2 ++ rest)) =
      ':' :: (plainString m.2 ++ rest) := by
    simp [skipBlank]
  have hskip : skipBlank (plainString m.2 ++ rest) = plainString m.2 ++ rest :=
    skipBlank_quote _
  rw [hs, readMembers, skipBlank_quote]
  simp only [readString_plain hname, hcolon, hskip, readValue_plainString hvalue]
  rfl

theorem readMembers_plain {members : List (List Char × List Char)} (hne : members ≠ [])
    (h : MembersPlain members) {fuel : Nat} (hfuel : members.length < fuel) (rest : List Char) :
    readMembers fuel (Text.joinWith [','] (members.map plainMember) ++ '\x7d' :: rest) =
      some (members.map fun m => (some (String.ofList m.1), .text (String.ofList m.2)), rest) := by
  induction members generalizing fuel with
  | nil => exact absurd rfl hne
  | cons m more ih =>
      obtain ⟨⟨hname, hvalue⟩, hmore⟩ := List.forall_mem_cons.mp h
      obtain ⟨fuel, rfl⟩ : ∃ f, fuel = f + 2 := ⟨fuel - 2, by rw [List.length_cons] at hfuel; omega⟩
      cases more with
      | nil =>
          rw [List.map_singleton, Text.joinWith, readMembers_plainMember hname hvalue]
          simp [skipBlank]
      | cons m' more =>
          have hlen : (m' :: more).length < fuel + 1 := by
            rw [List.length_cons] at hfuel
            omega
          have hjoin : Text.joinWith [','] ((m :: m' :: more).map plainMember) ++ '\x7d' :: rest =
              plainMember m ++ (',' :: (Text.joinWith [','] ((m' :: more).map plainMember) ++
                '\x7d' :: rest)) := by
            simp [Text.joinWith]
          rw [hjoin, readMembers_plainMember hname hvalue, skipBlank, if_neg (by decide)]
          simp only [ih (by simp) hmore hlen, Option.map_some]
          rfl

theorem length_members_lt (members : List (List Char × List Char)) :
    members.length < (plainObject members).length := by
  have hjoin : members.length ≤ (Text.joinWith [','] (members.map plainMember)).length := by
    induction members with
    | nil => exact Nat.zero_le _
    | cons m more ih =>
        cases more with
        | nil => simp [Text.joinWith, plainMember, plainString]
        | cons m' more =>
            simp only [List.map_cons, Text.joinWith, List.length_append, List.length_cons,
              List.length_nil] at ih ⊢
            omega
  simp only [plainObject, List.length_cons, List.length_append]
  omega

theorem not_mem_plainString {text : List Char} (h : ∀ c ∈ text, isPlain c = true) {c : Char}
    (hc : isPlain c = false) (hquote : c ≠ '"') : c ∉ plainString text := by
  have htext : c ∉ text := fun hmem => by
    rw [h c hmem] at hc
    cases hc
  simp [plainString, hquote, htext]

/-- An object of plain members holds no character that would need an escape, quotes apart. -/
theorem not_mem_plainObject {members : List (List Char × List Char)} (h : MembersPlain members)
    {c : Char} (hc : isPlain c = false) (hmark : c ∉ ['\x7b', ',', ':', '"', '\x7d']) :
    c ∉ plainObject members := by
  simp only [List.mem_cons, List.not_mem_nil, or_false, not_or] at hmark
  obtain ⟨hopen, hcomma, hcolon, hquote, hclose⟩ := hmark
  have hjoin : c ∉ Text.joinWith [','] (members.map plainMember) := fun hmem => by
    rcases Text.mem_joinWith hmem with hmem | ⟨piece, hpiece, hmem⟩
    · exact hcomma (List.mem_singleton.mp hmem)
    · obtain ⟨m, hm, rfl⟩ := List.mem_map.mp hpiece
      obtain ⟨hname, hvalue⟩ := h m hm
      rcases List.mem_append.mp hmem with hmem | hmem
      · exact not_mem_plainString hname hc hquote hmem
      · rcases List.mem_cons.mp hmem with hmem | hmem
        · exact hcolon hmem
        · exact not_mem_plainString hvalue hc hquote hmem
  simp [plainObject, hopen, hclose, hjoin]

/-- An object of plain members is read as its members. -/
theorem parse?_plainObject {members : List (List Char × List Char)} (hne : members ≠ [])
    (h : MembersPlain members) :
    parse? (String.ofList (plainObject members)) = some (plainValue members) := by
  have hquote : ∃ rest, Text.joinWith [','] (members.map plainMember) ++ ['}'] = '"' :: rest := by
    cases members with
    | nil => exact absurd rfl hne
    | cons m more => cases more <;> exact ⟨_, rfl⟩
  obtain ⟨rest, hrest⟩ := hquote
  have hlen := length_members_lt members
  have hmembers := readMembers_plain hne h hlen []
  rw [hrest] at hmembers
  rw [parse?, String.toList_ofList]
  simp only [plainObject, hrest] at hmembers ⊢
  rw [skipBlank, if_neg (by decide), readValue]
  simp only [skipBlank_quote]
  rw [List.length_cons, List.length_cons] at hmembers ⊢
  simp [hmembers, skipBlank, plainValue, record]

end HostInventory.Json
