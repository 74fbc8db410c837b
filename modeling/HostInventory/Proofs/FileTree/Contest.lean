import HostInventory.Proofs.FileTree.AllOrNothing

/-!
# Replacements of one file at the same time

Any number of replacements of one file work in a tree, their steps interleaved in any way; one that
gets no more steps has been cut off. The tree remembers nothing of them but the entries, so a
contest keeps beside it which replacement was the last to rename its file over the target.

`Sound` is the invariant: each replacement owns its temporary file, all of them are apart from one
another and from the target, and nothing else has changed since the contest began. It does not need
temporary files to be taken away; that they are is `Tidy`, which holds as long as their removal
succeeds.
-/

namespace HostInventory

open Replacement

/-- Replacements of one file, each as far as it has come, and the tree in which they work. -/
structure Contest where
  tree : FileTree
  calls : List (Replacement × Stage)
  /-- The replacement that was the last to rename its file over the target. -/
  moved : Option Replacement

namespace Contest

/-- Replacements of the file at a path, one for each content and mode, before their first steps. -/
def start (t : FileTree) (path : String) (writes : List (Octets × Nat)) : Contest :=
  ⟨t, writes.map fun w => (⟨path, w.1, w.2⟩, .naming 0), none⟩

def step (c : Contest) (move : Nat × Chance) : Contest :=
  match c.calls[move.1]? with
  | none => c
  | some (r, s) =>
    let next := r.step move.2 c.tree s
    ⟨next.1, c.calls.set move.1 (r, next.2), if s.moves next.2 then some r else c.moved⟩

/-- The steps of a list, one after the other. -/
def run (c : Contest) (moves : List (Nat × Chance)) : Contest :=
  moves.foldl step c

/-- Whether in each step that takes a temporary file away the system does so. -/
def RemovalsSucceed (c : Contest) : List (Nat × Chance) → Prop
  | [] => True
  | move :: rest =>
    (∀ r temp cause, c.calls[move.1]? = some (r, .removing temp cause) →
        ∃ t, c.tree.unlink temp.path = .ok t) ∧
      RemovalsSucceed (c.step move) rest

/-- What stands at the target once a replacement has renamed its file over it. -/
def outcome (original : Option Entry) : Option Replacement → Option Entry
  | none => original
  | some r => some (.file (r.mode &&& 0o7777) r.content)

/-! ## What holds at any time -/

/-- What holds of a contest that began in a given tree. -/
structure Sound (t₀ : FileTree) (path : String) (writes : List (Octets × Nat)) (c : Contest) :
    Prop where
  ways : t₀.NoNewWays c.tree
  calls : ∀ {i : Nat} {r : Replacement} {s : Stage}, c.calls[i]? = some (r, s) →
    r.path = path ∧ (r.content, r.mode) ∈ writes
  owns : ∀ {i : Nat} {r : Replacement} {s : Stage}, c.calls[i]? = some (r, s) →
    ∀ temp, s.temp? = some temp → Owns t₀ c.tree r s temp
  apart : ∀ {i j : Nat} {r r' : Replacement} {s s' : Stage} {temp temp' : TempFile}, i ≠ j →
    c.calls[i]? = some (r, s) → c.calls[j]? = some (r', s') → s.temp? = some temp →
    s'.temp? = some temp' → temp.place ≠ temp'.place
  kept : ∀ {place : Place} {e : Entry}, t₀.get? place = some e → t₀.named? path ≠ some place →
    c.tree.get? place = some e
  target : ∀ {place : Place}, t₀.named? path = some place →
    c.tree.get? place = outcome (t₀.get? place) c.moved
  moved : ∀ {r : Replacement}, c.moved = some r →
    r.path = path ∧ (r.content, r.mode) ∈ writes ∧ ∃ place, t₀.named? path = some place

theorem sound_start (t : FileTree) (path : String) (writes : List (Octets × Nat)) :
    Sound t path writes (start t path writes) := by
  have hcalls : ∀ {i : Nat} {r : Replacement} {s : Stage},
      (start t path writes).calls[i]? = some (r, s) →
      (r.path = path ∧ (r.content, r.mode) ∈ writes) ∧ s = .naming 0 := fun {i r s} hi => by
    rw [start, List.getElem?_map, Option.map_eq_some_iff] at hi
    obtain ⟨w, hw, heq⟩ := hi
    obtain ⟨rfl, rfl⟩ := Prod.mk.inj heq
    exact ⟨⟨rfl, List.mem_of_getElem? hw⟩, rfl⟩
  refine ⟨.refl t, fun hi => (hcalls hi).1, fun hi temp ht => ?_, fun _ hi _ ht _ => ?_,
    fun he _ => he, fun _ => rfl, nofun⟩
  · obtain rfl := (hcalls hi).2
    cases ht
  · obtain rfl := (hcalls hi).2
    cases ht

/-- Owning a temporary file does not depend on other places. -/
theorem owns_of_get?_eq {t₀ t t' : FileTree} {r : Replacement} {s : Stage} {temp : TempFile}
    (h : Owns t₀ t r s temp) (ht : t'.get? temp.place = t.get? temp.place) :
    Owns t₀ t' r s temp :=
  ⟨h.named, h.free, h.notTarget, by rw [ht]; exact h.holds⟩

namespace Sound

variable {t₀ : FileTree} {path : String} {writes : List (Octets × Nat)} {c : Contest}

/-- One replacement goes on, which leaves all places alone but its own temporary file, the target,
and places where nothing is. -/
theorem advance (h : Sound t₀ path writes c) {i : Nat} {r : Replacement} {s s' : Stage}
    {t : FileTree} (moved : Option Replacement) (hi : c.calls[i]? = some (r, s))
    (hways : t₀.NoNewWays t)
    (howns : ∀ temp, s'.temp? = some temp → Owns t₀ t r s' temp)
    (hnew : ∀ temp, s'.temp? = some temp →
      s.temp? = some temp ∨ c.tree.get? temp.place = none)
    (hother : ∀ place, (∀ temp, s.temp? = some temp → place ≠ temp.place) →
      t₀.named? path ≠ some place → c.tree.get? place ≠ none →
      t.get? place = c.tree.get? place)
    (htarget : ∀ place, t₀.named? path = some place →
      t.get? place = outcome (t₀.get? place) moved)
    (hmoved : ∀ r', moved = some r' → c.moved = some r' ∨
      r' = r ∧ ∃ place, t₀.named? path = some place) :
    Sound t₀ path writes ⟨t, c.calls.set i (r, s'), moved⟩ := by
  have hcall : ∀ {j : Nat} {r' : Replacement} {u : Stage},
      (c.calls.set i (r, s'))[j]? = some (r', u) →
      (j = i ∧ r' = r ∧ u = s') ∨ (j ≠ i ∧ c.calls[j]? = some (r', u)) := fun {j r' u} hj => by
    rw [List.getElem?_set] at hj
    split at hj
    · rename_i hij
      rw [if_pos (List.getElem?_eq_some_iff.mp hi).1] at hj
      obtain ⟨rfl, rfl⟩ := Prod.mk.inj (Option.some.inj hj)
      exact Or.inl ⟨hij.symm, rfl, rfl⟩
    · rename_i hij
      exact Or.inr ⟨fun he => hij he.symm, hj⟩
  -- the temporary file of another replacement is there, and elsewhere
  have hapart : ∀ {j : Nat} {r' : Replacement} {u : Stage} {temp temp' : TempFile}, j ≠ i →
      c.calls[j]? = some (r', u) → u.temp? = some temp → s'.temp? = some temp' →
      temp.place ≠ temp'.place := fun {j r' u temp temp'} hji hj hu hs' => by
    rcases hnew temp' hs' with hs | hfree
    · exact h.apart hji hj hi hu hs
    · obtain ⟨mode, octets, hfile, -⟩ := (h.owns hj temp hu).holds
      intro he
      rw [he, hfree] at hfile
      cases hfile
  refine ⟨hways, fun hj => ?_, fun {j r' u} hj temp hu => ?_, fun hjk hj hk hu hv => ?_,
    fun {place e} he hne => ?_, fun hp => htarget _ hp, fun {r'} hr => ?_⟩
  · rcases hcall hj with ⟨-, rfl, -⟩ | ⟨-, hj⟩
    · exact h.calls hi
    · exact h.calls hj
  · rcases hcall hj with ⟨-, rfl, rfl⟩ | ⟨hji, hj⟩
    · exact howns temp hu
    · have htemp := h.owns hj temp hu
      refine owns_of_get?_eq htemp (hother temp.place (fun _ hs => h.apart hji hj hi hu hs) ?_ ?_)
      · rw [← (h.calls hj).1]
        exact htemp.notTarget
      · obtain ⟨mode, octets, hfile, -⟩ := htemp.holds
        rw [hfile]
        exact nofun
  · rcases hcall hj with ⟨rfl, rfl, rfl⟩ | ⟨hji, hj'⟩
    · rcases hcall hk with ⟨rfl, -, -⟩ | ⟨hki, hk'⟩
      · exact absurd rfl hjk
      · exact (hapart hki hk' hv hu).symm
    · rcases hcall hk with ⟨rfl, rfl, rfl⟩ | ⟨hki, hk'⟩
      · exact hapart hji hj' hu hv
      · exact h.apart hjk hj' hk' hu hv
  · have hkept := h.kept he hne
    rw [hother place (fun temp hs heq => ?_) hne (by rw [hkept]; exact nofun)]
    · exact hkept
    · rw [heq, (h.owns hi temp hs).free] at he
      cases he
  · rcases hmoved r' hr with hm | ⟨rfl, hp⟩
    · exact h.moved hm
    · exact ⟨(h.calls hi).1, (h.calls hi).2, hp⟩

/-- A step changes an owned temporary file. -/
theorem change (h : Sound t₀ path writes c) {i : Nat} {r : Replacement} {s s' : Stage}
    {temp : TempFile} {mode : Nat} {octets : Octets} (hi : c.calls[i]? = some (r, s))
    (hs : s.temp? = some temp) (hs' : s'.temp? = some temp) (hf : s'.Fits r mode octets) :
    Sound t₀ path writes
      ⟨c.tree.put temp.place (.file mode octets), c.calls.set i (r, s'), c.moved⟩ := by
  have htemp := h.owns hi temp hs
  have hfile := htemp.holds
  refine h.advance c.moved hi (h.ways.put_file (fun m hm => ?_) mode octets) (fun temp' ht => ?_)
    (fun temp' ht => ?_) (fun place hp _ _ => ?_) (fun place hp => ?_) (fun _ => Or.inl)
  · obtain ⟨_, _, hfile, -⟩ := hfile
    rw [hm] at hfile
    cases hfile
  · obtain rfl := Option.some.inj (hs'.symm.trans ht)
    exact ⟨htemp.named, htemp.free, htemp.notTarget, mode, octets, by simp, hf⟩
  · exact Or.inl (hs.trans (hs'.symm.trans ht))
  · exact FileTree.get?_put_of_ne c.tree _ (hp temp hs)
  · rw [FileTree.get?_put_of_ne c.tree _, h.target hp]
    rintro rfl
    exact htemp.notTarget ((h.calls hi).1 ▸ hp)

theorem move (h : Sound t₀ path writes c) {i : Nat} {r : Replacement} {s s' : Stage}
    {t : FileTree} (hi : c.calls[i]? = some (r, s)) (hm : Move t₀ c.tree r s t s') :
    Sound t₀ path writes
      ⟨t, c.calls.set i (r, s'), if s.moves s' then some r else c.moved⟩ := by
  obtain ⟨hpath, hwrite⟩ := h.calls hi
  cases hm with
  | rest ht hm hf =>
      rw [hm]
      refine h.advance c.moved hi h.ways (fun temp hs => ?_) (fun temp hs => .inl (ht ▸ hs))
        (fun _ _ _ _ => rfl) (fun _ => h.target) (fun _ => Or.inl)
      have htemp := h.owns hi temp (ht ▸ hs)
      obtain ⟨mode, octets, hfile, hfits⟩ := htemp.holds
      exact ⟨htemp.named, htemp.free, htemp.notTarget, mode, octets, hfile, hf mode octets hfits⟩
  | @create tried temp mode hp ht hf =>
      have hne : t₀.named? path ≠ some temp.place := hpath ▸ ht
      have hfree : t₀.get? temp.place = none := by
        cases he : t₀.get? temp.place with
        | none => rfl
        | some e => exact (h.kept he hne).symm.trans hf
      refine h.advance c.moved hi (h.ways.put_file (by simp [hf]) mode []) (fun temp' hs => ?_)
        (fun temp' hs => ?_) (fun place _ _ hp => ?_) (fun place hp => ?_) (fun _ => Or.inl)
      · obtain rfl := Option.some.inj hs
        exact ⟨hp.named, hfree, ht, mode, [], by simp, rfl⟩
      · obtain rfl := Option.some.inj hs
        exact Or.inr hf
      · refine FileTree.get?_put_of_ne c.tree _ ?_
        rintro rfl
        exact hp hf
      · rw [FileTree.get?_put_of_ne c.tree _, h.target hp]
        rintro rfl
        exact hne hp
  | change hs hs' hf =>
      rw [Stage.moves_of_temp? hs']
      exact h.change hi hs hs' hf
  | @replace temp target hchange hd =>
      have ht := hchange.named
      have htemp := h.owns hi temp rfl
      have hne : target ≠ temp.place := by
        rintro rfl
        exact htemp.notTarget ht
      obtain ⟨mode, octets, hfile, -⟩ := htemp.holds
      refine h.advance (some r) hi ?_ nofun nofun (fun place hp hpt _ => ?_) (fun place hp => ?_)
        (fun r' hr => .inr ⟨(Option.some.inj hr).symm, target, hpath ▸ ht⟩)
      · refine (h.ways.erase (by simp [hfile])).put_file (fun m hm => ?_) _ _
        rw [FileTree.get?_erase_of_ne c.tree hne] at hm
        exact hd m hm
      · rw [FileTree.get?_put_of_ne _ _, FileTree.get?_erase_of_ne c.tree (hp temp rfl)]
        rintro rfl
        exact hpt (hpath ▸ ht)
      · obtain rfl := Option.some.inj (hp.symm.trans (hpath ▸ ht))
        exact FileTree.get?_put_self _ _ _
  | @remove temp cause =>
      have htemp := h.owns hi temp rfl
      obtain ⟨mode, octets, hfile, -⟩ := htemp.holds
      refine h.advance c.moved hi (h.ways.erase (by simp [hfile])) nofun nofun
        (fun place hp _ _ => FileTree.get?_erase_of_ne c.tree (hp temp rfl)) (fun place hp => ?_)
        (fun _ => Or.inl)
      rw [FileTree.get?_erase_of_ne c.tree, h.target hp]
      rintro rfl
      exact htemp.notTarget (hpath ▸ hp)
  | leave _ =>
      exact h.advance c.moved hi h.ways nofun nofun (fun _ _ _ _ => rfl) (fun _ => h.target)
        (fun _ => Or.inl)

theorem step (h : Sound t₀ path writes c) (move : Nat × Chance) :
    Sound t₀ path writes (c.step move) := by
  unfold Contest.step
  split
  · exact h
  · rename_i r s hi
    exact h.move hi (move_of_step h.ways (h.owns hi) move.2)

theorem run (h : Sound t₀ path writes c) (moves : List (Nat × Chance)) :
    Sound t₀ path writes (c.run moves) := by
  induction moves generalizing c with
  | nil => exact h
  | cons move rest ih => exact ih (h.step move)

end Sound

/-! ## Nothing is left behind -/

/-- Whatever was not there when the contest began, at the target apart, is the temporary file of a
replacement that has not returned. -/
def Tidy (t₀ : FileTree) (path : String) (c : Contest) : Prop :=
  ∀ (place : Place) (e : Entry), c.tree.get? place = some e →
    t₀.get? place = some e ∨ t₀.named? path = some place ∨
      ∃ (i : Nat) (r : Replacement) (s : Stage) (temp : TempFile),
        c.calls[i]? = some (r, s) ∧ s.temp? = some temp ∧ temp.place = place

theorem tidy_start (t : FileTree) (path : String) (writes : List (Octets × Nat)) :
    Tidy t path (start t path writes) :=
  fun _ _ he => Or.inl he

namespace Tidy

variable {t₀ : FileTree} {path : String} {writes : List (Octets × Nat)} {c : Contest}

/-- One replacement goes on, which gives its temporary file up only when it is gone. -/
theorem advance (h : Tidy t₀ path c) {i : Nat} {r : Replacement} {s s' : Stage} {t : FileTree}
    (moved : Option Replacement) (hi : c.calls[i]? = some (r, s))
    (hnew : ∀ place e, t.get? place = some e →
      (c.tree.get? place = some e ∧
          ∀ temp, s.temp? = some temp → temp.place = place → s'.temp? = some temp) ∨
        t₀.named? path = some place ∨ ∃ temp, s'.temp? = some temp ∧ temp.place = place) :
    Tidy t₀ path ⟨t, c.calls.set i (r, s'), moved⟩ := by
  have hself : (c.calls.set i (r, s'))[i]? = some (r, s') := by
    rw [List.getElem?_set_self (List.getElem?_eq_some_iff.mp hi).1]
  intro place e he
  rcases hnew place e he with ⟨hold, hgive⟩ | ht | ⟨temp, hs', hp⟩
  · rcases h place e hold with h₀ | ht | ⟨j, r', u, temp, hj, hu, hp⟩
    · exact Or.inl h₀
    · exact Or.inr (Or.inl ht)
    · refine Or.inr (Or.inr ?_)
      by_cases hij : i = j
      · subst hij
        obtain ⟨rfl, rfl⟩ := Prod.mk.inj (Option.some.inj (hi.symm.trans hj))
        exact ⟨i, r, s', temp, hself, hgive temp hu hp, hp⟩
      · exact ⟨j, r', u, temp, (List.getElem?_set_ne hij).trans hj, hu, hp⟩
  · exact Or.inr (Or.inl ht)
  · exact Or.inr (Or.inr ⟨i, r, s', temp, hself, hs', hp⟩)

theorem move (h : Tidy t₀ path c) {i : Nat} {r : Replacement} {s s' : Stage} {t : FileTree}
    (moved : Option Replacement) (hi : c.calls[i]? = some (r, s)) (hpath : r.path = path)
    (hm : Move t₀ c.tree r s t s')
    (hremoved : ∀ temp cause, s = .removing temp cause → ∃ t, c.tree.unlink temp.path = .ok t) :
    Tidy t₀ path ⟨t, c.calls.set i (r, s'), moved⟩ := by
  refine h.advance moved hi fun place e he => ?_
  cases hm with
  | rest ht _ _ => exact .inl ⟨he, fun temp hs _ => ht.trans hs⟩
  | @create _ temp _ _ _ _ =>
      by_cases hp : place = temp.place
      · exact .inr (.inr ⟨temp, rfl, hp.symm⟩)
      · rw [FileTree.get?_put_of_ne c.tree _ hp] at he
        exact .inl ⟨he, nofun⟩
  | @change _ _ temp _ _ hs hs' _ =>
      by_cases hp : place = temp.place
      · exact .inr (.inr ⟨temp, hs', hp.symm⟩)
      · rw [FileTree.get?_put_of_ne c.tree _ hp] at he
        exact .inl ⟨he, fun temp' ht _ => hs'.trans (hs.symm.trans ht)⟩
  | @replace temp target hchange _ =>
      have ht := hchange.named
      by_cases hpt : place = target
      · exact .inr (.inl (hpath ▸ hpt ▸ ht))
      · rw [FileTree.get?_put_of_ne _ _ hpt] at he
        by_cases hp : place = temp.place
        · rw [hp, FileTree.get?_erase_self] at he
          cases he
        · rw [FileTree.get?_erase_of_ne c.tree hp] at he
          refine .inl ⟨he, fun temp' hs hp' => absurd ?_ hp⟩
          exact hp'.symm.trans (congrArg TempFile.place (Option.some.inj hs).symm)
  | @remove temp _ =>
      by_cases hp : place = temp.place
      · rw [hp, FileTree.get?_erase_self] at he
        cases he
      · rw [FileTree.get?_erase_of_ne c.tree hp] at he
        refine .inl ⟨he, fun temp' hs hp' => absurd ?_ hp⟩
        exact hp'.symm.trans (congrArg TempFile.place (Option.some.inj hs).symm)
  | @leave temp cause _ hl =>
      obtain ⟨t', ht'⟩ := hremoved temp cause rfl
      rw [hl] at ht'
      cases ht'

theorem run (h : Tidy t₀ path c) (hc : Sound t₀ path writes c) {moves : List (Nat × Chance)}
    (hr : c.RemovalsSucceed moves) : Tidy t₀ path (c.run moves) := by
  induction moves generalizing c with
  | nil => exact h
  | cons move rest ih =>
      obtain ⟨hfirst, hrest⟩ := hr
      refine ih ?_ (hc.step move) hrest
      unfold Contest.step
      split
      · exact h
      · rename_i r s hi
        refine h.move _ hi (hc.calls hi).1 (move_of_step hc.ways (hc.owns hi) move.2) ?_
        rintro temp cause rfl
        exact hfirst r temp cause hi

end Tidy

/-! ## What a reader of the file finds -/

/-- A path names the same place as when the contest began, except where a link at the target led to
the directory of the target and is gone. -/
theorem named?_of_sound {t₀ : FileTree} {path : String} {writes : List (Octets × Nat)}
    {c : Contest} (h : Sound t₀ path writes c) {place : Place}
    (hp : t₀.named? path = some place) :
    c.tree.named? path = some place ∨
      (c.tree.named? path = none ∧ ∃ target, t₀.get? place = some (.link target)) := by
  refine FileTree.named?_of_links_kept h.ways hp fun {p target} hne hl => h.kept hl fun hp' => ?_
  exact hne (Option.some.inj (hp'.symm.trans hp))

/-- However the steps of any number of replacements of one file are interleaved, and wherever some
of them are cut off: at the place that the path named at first stands what stood there, or the file
of the replacement that renamed last, with its whole content and exactly its mode. Every other entry
that was there is there still. As long as temporary files can be taken away, anything else that is
there is the temporary file of a replacement that has not returned. -/
theorem replaced_atomically (t₀ : FileTree) (path : String) (writes : List (Octets × Nat))
    (moves : List (Nat × Chance)) :
    let c := (start t₀ path writes).run moves
    (∀ place, t₀.named? path = some place →
      c.tree.get? place = outcome (t₀.get? place) c.moved ∧
        (c.tree.named? path = some place ∨
          (c.tree.named? path = none ∧ ∃ target, t₀.get? place = some (.link target)))) ∧
      (∀ r, c.moved = some r → r.path = path ∧ (r.content, r.mode) ∈ writes ∧
        ∃ place, t₀.named? path = some place) ∧
      (∀ place e, t₀.get? place = some e → t₀.named? path ≠ some place →
        c.tree.get? place = some e) ∧
      ((start t₀ path writes).RemovalsSucceed moves →
        ∀ place e, c.tree.get? place = some e →
          t₀.get? place = some e ∨ t₀.named? path = some place ∨
            ∃ (i : Nat) (r : Replacement) (s : Stage) (temp : TempFile),
              c.calls[i]? = some (r, s) ∧ (∀ result, s ≠ .returned result) ∧
                s.temp? = some temp ∧ temp.place = place) := by
  have hstart := sound_start t₀ path writes
  have hc := hstart.run moves
  refine ⟨fun place hp => ⟨hc.target hp, named?_of_sound hc hp⟩, fun r hr => hc.moved hr,
    fun place e he hne => hc.kept he hne, fun hremovals place e he => ?_⟩
  rcases (tidy_start t₀ path writes).run hstart hremovals place e he with
    h₀ | ht | ⟨i, r, s, temp, hi, hs, hp⟩
  · exact Or.inl h₀
  · exact Or.inr (Or.inl ht)
  · refine Or.inr (Or.inr ⟨i, r, s, temp, hi, fun result hres => ?_, hs, hp⟩)
    rw [hres] at hs
    cases hs

/-! Two replacements of a file. One is cut off while it writes; the other one finds the disk full
and takes its temporary file away. -/

def sampleContest (t : FileTree) (first second : Stage) : Contest :=
  ⟨t, [(⟨"data", [2, 3], 0o644⟩, first), (⟨"data", [4], 0o600⟩, second)], none⟩

def sampleMoves : List (Nat × Chance) :=
  [(0, ⟨7, 0, none⟩), (1, ⟨8, 0, none⟩), (1, ⟨0, 0, some (.number 28)⟩), (1, ⟨0, 0, none⟩),
    (0, ⟨0, 0, none⟩)]

def sampleTemp (number : Nat) : TempFile :=
  ⟨TempFile.pathIn "." "data" number, [TempFile.name "data" number]⟩

/-- The tree when the first replacement has its temporary file. -/
def firstTree : FileTree :=
  FileTree.sampleTree.put (sampleTemp 7).place (.file 0o600 [])

def bothTree : FileTree :=
  firstTree.put (sampleTemp 8).place (.file 0o600 [])

def diskFull : FileError :=
  .writing (sampleTemp 8).path (.number 28)

theorem changeable_sampleTemp {t : FileTree} (hcwd : t.cwd = [])
    (hroot : t.get? [] = some (.directory 0o755)) {number : Nat} (hnumber : number < 10) :
    t.Changeable (sampleTemp number).path (sampleTemp number).place := by
  have htemp : ∀ number < 10, FileTree.checkPath (sampleTemp number).path = .ok () ∧
      Path.isAbsolute (sampleTemp number).path.toList = false ∧
      FileTree.cutLast (sampleTemp number).path =
        (["."], .name (TempFile.name "data" number) false) ∧
      ¬ FileTree.maxName < (TempFile.name "data" number).utf8ByteSize := by
    decide +kernel
  obtain ⟨hcheck, hstart, hcut, hlen⟩ := htemp number hnumber
  rw [← hcwd] at hroot
  have hsearch : t.canSearch t.cwd = true := by
    rw [FileTree.canSearch, hroot]
    rfl
  have hchange : t.canChange t.cwd = true := by
    rw [FileTree.canChange, hroot]
    rfl
  have hfront : ∀ segment ∈ (FileTree.cutLast (sampleTemp number).path).1, segment = "." := by
    rw [hcut]
    exact fun segment => List.eq_of_mem_singleton
  have hplace := FileTree.changeable_here hroot hsearch hchange hcheck hstart hfront
    (congrArg Prod.snd hcut) hlen
  rwa [hcwd] at hplace

theorem step_naming_sample {r : Replacement} {t : FileTree} {number : Nat}
    (hdir : r.directory = ".") (hpattern : r.pattern = "data")
    (h : t.Changeable (sampleTemp number).path (sampleTemp number).place)
    (hfree : t.get? (sampleTemp number).place = none) :
    r.step ⟨number, 0, none⟩ t (.naming 0) =
      (t.put (sampleTemp number).place (.file (t.newMode r.mode) []),
        .writing (sampleTemp number) r.content) := by
  have hattempt : TempFile.attempt t "." "data" r.mode number = _ :=
    TempFile.attempt_of_changeable h hfree r.mode
  show r.tryName t 0 number = _
  unfold tryName
  rw [hdir, hpattern, hattempt]
  rfl

theorem step_of_call {c : Contest} {i : Nat} {r : Replacement} {s s' : Stage} {chance : Chance}
    {t : FileTree} (hi : c.calls[i]? = some (r, s)) (hs : r.step chance c.tree s = (t, s'))
    (hm : s.moves s' = false) :
    c.step (i, chance) = ⟨t, c.calls.set i (r, s'), c.moved⟩ := by
  simp only [Contest.step, hi, hs, hm]
  rfl

theorem run_sampleMoves :
    (sampleContest FileTree.sampleTree (.naming 0) (.naming 0)).RemovalsSucceed sampleMoves ∧
      (sampleContest FileTree.sampleTree (.naming 0) (.naming 0)).run sampleMoves =
        sampleContest ((bothTree.erase (sampleTemp 8).place).append (sampleTemp 7).place [2])
          (.writing (sampleTemp 7) [3]) (.returned (.error diskFull)) := by
  have hunlink : bothTree.unlink (sampleTemp 8).path = .ok (bothTree.erase (sampleTemp 8).place) :=
    FileTree.unlink_of_changeable (changeable_sampleTemp rfl (by decide +kernel) (by decide))
      (FileTree.get?_put_self _ _ _) rfl
  have hremove : (⟨"data", [4], 0o600⟩ : Replacement).step ⟨0, 0, none⟩ bothTree
      (.removing (sampleTemp 8) diskFull) =
        (bothTree.erase (sampleTemp 8).place, .returned (.error diskFull)) := by
    simp only [Replacement.step, hunlink]
    rfl
  have h₁ : (sampleContest FileTree.sampleTree (.naming 0) (.naming 0)).step (0, ⟨7, 0, none⟩) =
      sampleContest firstTree (.writing (sampleTemp 7) [2, 3]) (.naming 0) :=
    step_of_call rfl (step_naming_sample (by decide +kernel) (by decide +kernel)
      (changeable_sampleTemp rfl rfl (by decide)) (by decide +kernel)) rfl
  have h₂ : (sampleContest firstTree (.writing (sampleTemp 7) [2, 3]) (.naming 0)).step
      (1, ⟨8, 0, none⟩) =
      sampleContest bothTree (.writing (sampleTemp 7) [2, 3]) (.writing (sampleTemp 8) [4]) :=
    step_of_call rfl (step_naming_sample (by decide +kernel) (by decide +kernel)
      (changeable_sampleTemp rfl (by decide +kernel) (by decide)) (by decide +kernel)) rfl
  have h₃ : (sampleContest bothTree (.writing (sampleTemp 7) [2, 3])
      (.writing (sampleTemp 8) [4])).step (1, ⟨0, 0, some (.number 28)⟩) =
      sampleContest bothTree (.writing (sampleTemp 7) [2, 3])
        (.removing (sampleTemp 8) diskFull) := rfl
  have h₄ : (sampleContest bothTree (.writing (sampleTemp 7) [2, 3])
      (.removing (sampleTemp 8) diskFull)).step (1, ⟨0, 0, none⟩) =
      sampleContest (bothTree.erase (sampleTemp 8).place) (.writing (sampleTemp 7) [2, 3])
        (.returned (.error diskFull)) :=
    step_of_call rfl hremove rfl
  refine ⟨?_, ?_⟩
  · simp only [sampleMoves, RemovalsSucceed, h₁, h₂, h₃, h₄]
    refine ⟨by simp [sampleContest], by simp [sampleContest], by simp [sampleContest],
      fun r temp cause hi => ?_, by simp [sampleContest], trivial⟩
    cases hi
    exact ⟨_, hunlink⟩
  · simp only [sampleMoves, run, List.foldl_cons, List.foldl_nil, h₁, h₂, h₃, h₄]
    rfl

theorem replaced_atomically_cut_off :
    (start FileTree.sampleTree "data" [([2, 3], 0o644), ([4], 0o600)]).RemovalsSucceed
        sampleMoves ∧
      ∃ t temp cause,
        (start FileTree.sampleTree "data" [([2, 3], 0o644), ([4], 0o600)]).run sampleMoves =
          sampleContest t (.writing temp [3]) (.returned (.error cause)) ∧
        t.get? ["data"] = some (.file 0o600 [1]) ∧ t.get? temp.place = some (.file 0o600 [2]) ∧
        ∀ place e, t.get? place = some e →
          FileTree.sampleTree.get? place = some e ∨ place = ["data"] ∨ place = temp.place := by
  obtain ⟨hremovals, hrun⟩ := run_sampleMoves
  have hstart : start FileTree.sampleTree "data" [([2, 3], 0o644), ([4], 0o600)] =
      sampleContest FileTree.sampleTree (.naming 0) (.naming 0) := rfl
  have hnamed : FileTree.sampleTree.named? "data" = some ["data"] :=
    (FileTree.changeable_sampleTree (by decide +kernel) (by decide +kernel) (by decide +kernel)
      (by decide +kernel) (by decide +kernel)).named
  obtain ⟨htarget, -, -, htidy⟩ := replaced_atomically FileTree.sampleTree "data"
    [([2, 3], 0o644), ([4], 0o600)] sampleMoves
  rw [hstart, hrun] at htarget htidy
  refine ⟨hremovals, _, _, _, hstart ▸ hrun, (htarget _ hnamed).1, by decide +kernel,
    fun place e he => ?_⟩
  rcases htidy hremovals place e he with h | h | ⟨i, r, s, temp, hi, hworks, hs, rfl⟩
  · exact .inl h
  · exact .inr (.inl (Option.some.inj (h.symm.trans hnamed)))
  · match i, hi with
    | 0, hi =>
        cases hi
        cases hs
        exact .inr (.inr rfl)
    | 1, hi =>
        cases hi
        exact absurd rfl (hworks _)

end Contest

end HostInventory
