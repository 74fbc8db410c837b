import HostInventory.Proofs.Collection.Keys
import HostInventory.Proofs.Text.OctetOrder
import Mathlib.Data.List.Induction
import Mathlib.Data.List.Sort

/-!
# What one package list has and another has not

An index is ordered by keys and holds, for each key of its list, the last package with that key
(`mem_ofList`). So what a comparison finds extra in a list is determined by what it has to be
(`IsExtra`), and does not depend on how the index was built. The order of the keys is that of their
octets, field by field.
-/

namespace HostInventory

namespace Package

/-! ## The order of keys -/

namespace Key

/-- What keys are ordered by: the octets of name, architecture and version. -/
def octets (k : Key) : List Octets :=
  [Utf8.encode k.name, Utf8.encode k.arch, Utf8.encode k.version]

theorem octets_inj {a b : Key} : a.octets = b.octets ↔ a = b := by
  constructor
  · intro h
    simp only [octets, List.cons.injEq, and_true, Utf8.encode_inj] at h
    obtain ⟨hname, harch, hversion⟩ := h
    cases a
    cases b
    simp_all
  · intro h
    rw [h]

theorem less_iff {a b : Key} : a.Less b ↔ a.octets < b.octets := by
  simp only [Less, octets, List.cons_lt_cons_iff, Utf8.encode_lt_encode_iff, Utf8.encode_inj,
    List.lt_irrefl, and_false, or_false]

theorem less_irrefl (k : Key) : ¬ k.Less k := by
  rw [less_iff]
  exact List.lt_irrefl _

theorem Less.trans {a b c : Key} (hab : a.Less b) (hbc : b.Less c) : a.Less c := by
  rw [less_iff] at *
  exact List.lt_trans hab hbc

theorem Less.ne {a b : Key} (h : a.Less b) : a ≠ b := by
  rintro rfl
  exact less_irrefl a h

theorem less_of_not_less {a b : Key} (hne : a ≠ b) (h : ¬ a.Less b) : b.Less a := by
  rw [less_iff] at *
  rcases Std.lt_trichotomy a.octets b.octets with hlt | heq | hgt
  · exact absurd hlt h
  · exact absurd (octets_inj.mp heq) hne
  · exact hgt

end Key

/-! ## Indices -/

/-- A package of a list behind which no other one has its key. -/
def IsLast (ps : List Package) (p : Package) : Prop :=
  ∃ before after, ps = before ++ p :: after ∧ ∀ q ∈ after, q.key ≠ p.key

theorem IsLast.mem {ps : List Package} {p : Package} (h : IsLast ps p) : p ∈ ps := by
  obtain ⟨before, after, rfl, -⟩ := h
  exact List.mem_append_right before List.mem_cons_self

theorem isLast_concat {ps : List Package} {p q : Package} :
    IsLast (ps ++ [p]) q ↔ q = p ∨ (IsLast ps q ∧ q.key ≠ p.key) := by
  constructor
  · rintro ⟨before, after, heq, hafter⟩
    rcases List.eq_nil_or_concat after with rfl | ⟨after', r, rfl⟩
    · exact .inl (List.singleton_inj.mp (List.append_inj' heq rfl).2).symm
    · rw [List.concat_eq_append, ← List.cons_append, ← List.append_assoc] at heq
      obtain ⟨hps, hr⟩ := List.append_inj' heq rfl
      obtain rfl := List.singleton_inj.mp hr
      refine .inr ⟨⟨before, after', hps, fun x hx => hafter x (by simp [hx])⟩, ?_⟩
      exact (hafter p (by simp)).symm
  · rintro (rfl | ⟨⟨before, after, rfl, hafter⟩, hne⟩)
    · exact ⟨ps, [], rfl, nofun⟩
    · refine ⟨before, after ++ [p], by simp, fun x hx => ?_⟩
      rcases List.mem_append.mp hx with hx | hx
      · exact hafter x hx
      · rw [List.mem_singleton.mp hx]
        exact hne.symm

namespace Index

/-- The keys strictly ascend. -/
def Ordered (index : Index) : Prop :=
  index.Pairwise fun a b => a.1.Less b.1

theorem mem_insert {p : Package} {index : Index} (h : index.Ordered) {e : Key × Package} :
    e ∈ index.insert p ↔ e = (p.key, p) ∨ (e ∈ index ∧ e.1 ≠ p.key) := by
  induction index with
  | nil => simp [insert]
  | cons first rest ih =>
      obtain ⟨k, q⟩ := first
      obtain ⟨hfirst, hrest⟩ := List.pairwise_cons.mp h
      unfold insert
      split
      · rename_i hk
        have hne : e ∈ rest → e.1 ≠ k := fun he => (hfirst e he).ne.symm
        subst hk
        constructor
        · intro he
          rcases List.mem_cons.mp he with he | he
          · exact .inl he
          · exact .inr ⟨List.mem_cons_of_mem _ he, hne he⟩
        · rintro (he | ⟨he, hkey⟩)
          · exact he ▸ List.mem_cons_self
          · rcases List.mem_cons.mp he with rfl | he
            · exact absurd rfl hkey
            · exact List.mem_cons_of_mem _ he
      · rename_i hk
        split
        · rename_i hless
          have hne : e ∈ (k, q) :: rest → e.1 ≠ p.key := fun he => by
            rcases List.mem_cons.mp he with rfl | he
            · exact hless.ne.symm
            · exact (hless.trans (hfirst e he)).ne.symm
          rw [List.mem_cons, and_iff_left_of_imp hne]
        · rw [List.mem_cons, ih hrest, List.mem_cons]
          constructor
          · rintro (rfl | he | ⟨he, hkey⟩)
            · exact .inr ⟨.inl rfl, fun heq => hk heq.symm⟩
            · exact .inl he
            · exact .inr ⟨.inr he, hkey⟩
          · rintro (he | ⟨he | he, hkey⟩)
            · exact .inr (.inl he)
            · exact .inl he
            · exact .inr (.inr ⟨he, hkey⟩)

theorem ordered_insert (p : Package) {index : Index} (h : index.Ordered) :
    (index.insert p).Ordered := by
  induction index with
  | nil => exact List.pairwise_singleton _ _
  | cons first rest ih =>
      obtain ⟨k, q⟩ := first
      obtain ⟨hfirst, hrest⟩ := List.pairwise_cons.mp h
      unfold insert
      split
      · exact List.pairwise_cons.mpr ⟨hfirst, hrest⟩
      · rename_i hk
        split
        · rename_i hless
          refine List.pairwise_cons.mpr ⟨fun e he => ?_, h⟩
          rcases List.mem_cons.mp he with rfl | he
          · exact hless
          · exact hless.trans (hfirst e he)
        · rename_i hless
          refine List.pairwise_cons.mpr ⟨fun e he => ?_, ih hrest⟩
          rcases (mem_insert hrest).mp he with rfl | ⟨he, -⟩
          · exact Key.less_of_not_less hk hless
          · exact hfirst e he

theorem ofList_concat (ps : List Package) (p : Package) :
    ofList (ps ++ [p]) = (ofList ps).insert p := by
  rw [ofList, List.foldl_concat]
  rfl

theorem ordered_ofList (ps : List Package) : (ofList ps).Ordered := by
  induction ps using List.reverseRecOn with
  | nil => exact .nil
  | append_singleton ps p ih =>
      rw [ofList_concat]
      exact ordered_insert p ih

/-- An index holds the last package for each key. -/
theorem mem_ofList {ps : List Package} {k : Key} {p : Package} :
    (k, p) ∈ ofList ps ↔ k = p.key ∧ IsLast ps p := by
  induction ps using List.reverseRecOn with
  | nil =>
      constructor
      · intro he
        cases he
      · rintro ⟨-, hlast⟩
        cases hlast.mem
  | append_singleton ps q ih =>
      rw [ofList_concat, mem_insert (ordered_ofList ps), ih, isLast_concat]
      constructor
      · rintro (he | ⟨⟨hkey, hlast⟩, hne⟩)
        · obtain ⟨rfl, rfl⟩ := Prod.mk.inj he
          exact ⟨rfl, .inl rfl⟩
        · exact ⟨hkey, .inr ⟨hlast, hkey ▸ hne⟩⟩
      · rintro ⟨rfl, rfl | ⟨hlast, hne⟩⟩
        · exact .inl rfl
        · exact .inr ⟨⟨rfl, hlast⟩, hne⟩

theorem contains_ofList_iff {ps : List Package} {k : Key} :
    (ofList ps).contains k = true ↔ ∃ p ∈ ps, p.key = k := by
  rw [contains_ofList, List.any_eq_true]
  simp only [beq_iff_eq]

theorem mem_without {ps others : List Package} {p : Package} :
    p ∈ (ofList ps).without (ofList others) ↔ IsLast ps p ∧ ∀ q ∈ others, q.key ≠ p.key := by
  have hnone : ∀ k, (!(ofList others).contains k) = true ↔ ∀ q ∈ others, q.key ≠ k := fun k => by
    rw [Bool.not_eq_true', ← Bool.not_eq_true, contains_ofList_iff]
    simp only [not_exists, not_and, ne_eq]
  simp only [without, List.mem_map, List.mem_filter, Prod.exists, mem_ofList, hnone]
  constructor
  · rintro ⟨k, q, ⟨⟨rfl, hlast⟩, hq⟩, rfl⟩
    exact ⟨hlast, hq⟩
  · rintro ⟨hlast, hq⟩
    exact ⟨p.key, p, ⟨⟨rfl, hlast⟩, hq⟩, rfl⟩

end Index

/-! ## Extra packages -/

/-- What a list has of keys that another list does not have: the last package with each of them, in
the order of the keys. -/
structure IsExtra (ps others extra : List Package) : Prop where
  ordered : extra.Pairwise fun p q => p.key.octets < q.key.octets
  key_mem : ∀ k, (∃ p ∈ extra, p.key = k) ↔ (∃ p ∈ ps, p.key = k) ∧ ∀ q ∈ others, q.key ≠ k
  last : ∀ p ∈ extra, IsLast ps p

theorem exists_isLast {ps : List Package} {k : Key} (h : ∃ p ∈ ps, p.key = k) :
    ∃ p, IsLast ps p ∧ p.key = k := by
  have hk := Index.contains_ofList_iff.mpr h
  obtain ⟨⟨k', p⟩, he, hkey⟩ := List.any_eq_true.mp hk
  obtain ⟨rfl, hlast⟩ := Index.mem_ofList.mp he
  exact ⟨p, hlast, beq_iff_eq.mp hkey⟩

theorem isExtra_without (ps others : List Package) :
    IsExtra ps others ((Index.ofList ps).without (Index.ofList others)) := by
  refine ⟨?_, fun k => ⟨?_, ?_⟩, fun p hp => (Index.mem_without.mp hp).1⟩
  · rw [Index.without, List.pairwise_map]
    refine List.Pairwise.imp_of_mem (fun {a b} ha hb hless => ?_)
      ((Index.ordered_ofList ps).sublist List.filter_sublist)
    obtain ⟨hkey, -⟩ := Index.mem_ofList.mp (List.mem_filter.mp ha).1
    obtain ⟨hkey', -⟩ := Index.mem_ofList.mp (List.mem_filter.mp hb).1
    rw [← hkey, ← hkey']
    exact Key.less_iff.mp hless
  · rintro ⟨p, hp, rfl⟩
    obtain ⟨hlast, hnone⟩ := Index.mem_without.mp hp
    exact ⟨⟨p, hlast.mem, rfl⟩, hnone⟩
  · rintro ⟨hk, hnone⟩
    obtain ⟨p, hlast, rfl⟩ := exists_isLast hk
    exact ⟨p, Index.mem_without.mpr ⟨hlast, hnone⟩, rfl⟩

namespace IsExtra

variable {ps others extra ps' others' extra' : List Package}

theorem eq_nil_iff (h : IsExtra ps others extra) :
    extra = [] ↔ ∀ k, (∃ p ∈ ps, p.key = k) → ∃ q ∈ others, q.key = k := by
  constructor
  · rintro rfl k hk
    by_contra hnone
    have hkey := (h.key_mem k).mpr ⟨hk, fun q hq he => hnone ⟨q, hq, he⟩⟩
    simp at hkey
  · intro hall
    refine List.eq_nil_iff_forall_not_mem.mpr fun p hp => ?_
    obtain ⟨hk, hnone⟩ := (h.key_mem p.key).mp ⟨p, hp, rfl⟩
    obtain ⟨q, hq, he⟩ := hall p.key hk
    exact hnone q hq he

/-- The keys of what is extra depend on the keys of the lists only. -/
theorem keys_eq (h : IsExtra ps others extra) (h' : IsExtra ps' others' extra')
    (hps : ∀ k, (∃ p ∈ ps, p.key = k) ↔ ∃ p ∈ ps', p.key = k)
    (hothers : ∀ k, (∃ q ∈ others, q.key = k) ↔ ∃ q ∈ others', q.key = k) :
    extra.map key = extra'.map key := by
  have hasymm : Std.Asymm fun a b : Key => a.octets < b.octets := ⟨fun _ _ => List.lt_asymm⟩
  have hordered : (extra.map key).Pairwise fun a b => a.octets < b.octets :=
    List.pairwise_map.mpr h.ordered
  have hordered' : (extra'.map key).Pairwise fun a b => a.octets < b.octets :=
    List.pairwise_map.mpr h'.ordered
  refine hordered.eq_of_mem_iff hordered' fun k => ?_
  have hnone : (∀ q ∈ others, q.key ≠ k) ↔ ∀ q ∈ others', q.key ≠ k := by
    have hnot := not_congr (hothers k)
    simpa only [not_exists, not_and] using hnot
  rw [List.mem_map, List.mem_map, h.key_mem, h'.key_mem, hps, hnone]

end IsExtra

/-- Packages of a list that have one key are equal. -/
def OneEach (ps : List Package) : Prop :=
  ∀ p ∈ ps, ∀ q ∈ ps, p.key = q.key → p = q

namespace IsExtra

variable {ps others extra ps' others' extra' : List Package}

theorem mem_iff (h : IsExtra ps others extra) (hone : OneEach ps) {p : Package} :
    p ∈ extra ↔ p ∈ ps ∧ ∀ q ∈ others, q.key ≠ p.key := by
  constructor
  · intro hp
    exact ⟨(h.last p hp).mem, ((h.key_mem p.key).mp ⟨p, hp, rfl⟩).2⟩
  · rintro ⟨hp, hnone⟩
    obtain ⟨q, hq, hkey⟩ := (h.key_mem p.key).mpr ⟨⟨p, hp, rfl⟩, hnone⟩
    rwa [hone p hp q (h.last q hq).mem hkey.symm]

/-- Where packages with one key are equal, what is extra does not depend on the order. -/
theorem eq_of_perm (h : IsExtra ps others extra) (h' : IsExtra ps' others' extra')
    (hone : OneEach ps) (hps : ps.Perm ps') (hothers : others.Perm others') : extra = extra' := by
  have hone' : OneEach ps' := fun p hp q hq hkey =>
    hone p (hps.mem_iff.mpr hp) q (hps.mem_iff.mpr hq) hkey
  have hasymm : Std.Asymm fun p q : Package => p.key.octets < q.key.octets :=
    ⟨fun _ _ => List.lt_asymm⟩
  refine h.ordered.eq_of_mem_iff h'.ordered fun p => ?_
  rw [h.mem_iff hone, h'.mem_iff hone', hps.mem_iff]
  simp only [hothers.mem_iff]

end IsExtra

end Package

/-! ## Comparisons -/

namespace Comparison

open Package

/-- What is extra on either side is what it has to be, the counts are those of the lists, and a
comparison is consistent exactly if both lists have the same keys. -/
theorem extras_by_key (legacy modern : List Package) :
    let c := ofLists legacy modern
    IsExtra legacy modern c.legacyExtra ∧ IsExtra modern legacy c.modernExtra ∧
      c.legacyCount = legacy.length ∧ c.modernCount = modern.length ∧
      (c.isConsistent = true ↔
        ∀ k, (∃ p ∈ legacy, p.key = k) ↔ ∃ p ∈ modern, p.key = k) := by
  intro c
  have hlegacy : IsExtra legacy modern c.legacyExtra := isExtra_without legacy modern
  have hmodern : IsExtra modern legacy c.modernExtra := isExtra_without modern legacy
  refine ⟨hlegacy, hmodern, rfl, rfl, ?_⟩
  rw [isConsistent, Bool.and_eq_true, List.isEmpty_iff, List.isEmpty_iff, hlegacy.eq_nil_iff,
    hmodern.eq_nil_iff, ← forall_and]
  exact forall_congr' fun k => iff_iff_implies_and_implies.symm

/-- The order of the lists does not matter to counts and keys, nor to the packages of a list in
which those with one key are equal; and either list may come first. -/
theorem order_immaterial {legacy legacy' modern modern' : List Package}
    (hl : legacy.Perm legacy') (hm : modern.Perm modern') :
    let c := ofLists legacy modern
    let c' := ofLists legacy' modern'
    c.legacyCount = c'.legacyCount ∧ c.modernCount = c'.modernCount ∧
      c.legacyExtra.map key = c'.legacyExtra.map key ∧
      c.modernExtra.map key = c'.modernExtra.map key ∧
      (OneEach legacy → c.legacyExtra = c'.legacyExtra) ∧
      (OneEach modern → c.modernExtra = c'.modernExtra) ∧
      (OneEach legacy → OneEach modern → c = c') ∧
      ofLists modern legacy = ⟨c.modernCount, c.legacyCount, c.modernExtra, c.legacyExtra⟩ := by
  intro c c'
  have hkeys : ∀ {ps ps' : List Package}, ps.Perm ps' →
      ∀ k, (∃ p ∈ ps, p.key = k) ↔ ∃ p ∈ ps', p.key = k := fun h k => by
    simp only [h.mem_iff]
  have hlegacy : IsExtra legacy modern c.legacyExtra := isExtra_without legacy modern
  have hmodern : IsExtra modern legacy c.modernExtra := isExtra_without modern legacy
  have hlegacy' : IsExtra legacy' modern' c'.legacyExtra := isExtra_without legacy' modern'
  have hmodern' : IsExtra modern' legacy' c'.modernExtra := isExtra_without modern' legacy'
  have hlegacyEq : OneEach legacy → c.legacyExtra = c'.legacyExtra := fun hone =>
    hlegacy.eq_of_perm hlegacy' hone hl hm
  have hmodernEq : OneEach modern → c.modernExtra = c'.modernExtra := fun hone =>
    hmodern.eq_of_perm hmodern' hone hm hl
  refine ⟨hl.length_eq, hm.length_eq, hlegacy.keys_eq hlegacy' (hkeys hl) (hkeys hm),
    hmodern.keys_eq hmodern' (hkeys hm) (hkeys hl), hlegacyEq, hmodernEq, ?_, rfl⟩
  intro honeLegacy honeModern
  show (⟨_, _, c.legacyExtra, c.modernExtra⟩ : Comparison) = c'
  rw [hlegacyEq honeLegacy, hmodernEq honeModern, hl.length_eq, hm.length_eq]
  rfl

/-- Of two packages with one key the one that comes last is shown, so that turning a list round
shows the other one. -/
theorem order_immaterial_reversed :
    let first := (Package.ofFields "tzdata" "all" "2024a").withSource "glibc" "2.36"
    let second := (Package.ofFields "tzdata" "noarch" "2024a").withSource "tzdata" "2024a"
    let bash := Package.ofFields "bash" "amd64" "5.2"
    let curl := Package.ofFields "curl" "amd64" "8.5"
    [first, bash, second].Perm [second, bash, first] ∧ [curl, bash, curl].Perm [curl, curl, bash] ∧
      OneEach [curl, bash, curl] ∧
      (ofLists [first, bash, second] [curl, bash, curl]).legacyExtra = [second] ∧
      (ofLists [second, bash, first] [curl, curl, bash]).legacyExtra = [first] ∧
      (ofLists [first, bash, second] [curl, bash, curl]).legacyExtra.map key =
        (ofLists [second, bash, first] [curl, curl, bash]).legacyExtra.map key ∧
      (ofLists [first, bash, second] [curl, bash, curl]).modernExtra =
        (ofLists [second, bash, first] [curl, curl, bash]).modernExtra := by
  intro first second bash curl
  have hl : [first, bash, second].Perm [second, bash, first] := by decide +kernel
  have hm : [curl, bash, curl].Perm [curl, curl, bash] := by decide +kernel
  have hone : OneEach [curl, bash, curl] := by
    show ∀ p ∈ [curl, bash, curl], ∀ q ∈ [curl, bash, curl], p.key = q.key → p = q
    decide +kernel
  obtain ⟨-, -, hkeys, -, -, hmodern, -⟩ := order_immaterial hl hm
  exact ⟨hl, hm, hone, by decide +kernel, by decide +kernel, hkeys, hmodern hone⟩

end Comparison

end HostInventory
