import HostInventory.Proofs.FileTree.Changeable
import HostInventory.Proofs.FileTree.TempName

/-!
# Creating a temporary file

Names are tried until one is free. A try that fails leaves nothing behind for the next one, so a
creation that fails has changed nothing (`tree_of_createBy_error`), and one that succeeds has made
the change of its last try (`exists_attempt`). The last try is the first one that does not meet an
entry (`createWithin_eq_ok_iff`).
-/

namespace HostInventory

namespace TempFile

open Replacement (Chance)

theorem attempt_of_changeable {t : FileTree} {directory pattern : String} {number : Nat}
    {place : Place} (h : t.Changeable (pathIn directory pattern number) place)
    (hfree : t.get? place = none) (mode : Nat) :
    attempt t directory pattern mode number =
      .ok (⟨pathIn directory pattern number, place⟩, t.put place (.file (t.newMode mode) [])) := by
  simp only [attempt, FileTree.createNew_of_changeable h hfree, bind, Except.bind]
  rfl

/-- Tries names one after the other, each in the tree that the tries before have left. What the
system decides is told by the number of tries before. -/
def createBy (directory pattern : String) (mode : Nat) (chance : Nat → Chance) :
    Nat → Nat → FileTree → FileTree × Except FileError TempFile
  | 0, _, t => (t, .error (.namesExhausted directory pattern))
  | attempts + 1, tried, t =>
    match (chance tried).outcome (attempt t directory pattern mode (chance tried).number) with
    | .ok (temp, t') => (t', .ok temp)
    | .error cause =>
      if cause.kind = .alreadyExists then
        createBy directory pattern mode chance attempts (tried + 1) t
      else (t, .error (.opening (pathIn directory pattern (chance tried).number) cause))

theorem tree_of_createBy_error {directory pattern : String} {mode : Nat} {chance : Nat → Chance}
    {t t' : FileTree} {cause : FileError} {attempts tried : Nat}
    (h : createBy directory pattern mode chance attempts tried t = (t', .error cause)) :
    t' = t := by
  induction attempts generalizing tried with
  | zero => exact (Prod.mk.inj h).1.symm
  | succ attempts ih =>
      rw [createBy] at h
      split at h
      · cases (Prod.mk.inj h).2
      · split at h
        · exact ih h
        · exact (Prod.mk.inj h).1.symm

theorem createWithin_succ (t : FileTree) (directory pattern : String) (mode : Nat)
    (draws : Draws) (attempts drawn : Nat) :
    createWithin t directory pattern mode draws (attempts + 1) drawn =
      match attempt t directory pattern mode (draws drawn) with
      | .ok created => .ok created
      | .error cause =>
        if cause.kind = .alreadyExists then
          createWithin t directory pattern mode draws attempts (drawn + 1)
        else .error (.opening (pathIn directory pattern (draws drawn)) cause) := by
  rfl

/-- When nothing fails that could succeed, these are the tries of `createWithin`. -/
theorem createBy_of_createWithin {directory pattern : String} {mode : Nat} {draws : Draws}
    {t : FileTree} {cause : FileError} {attempts tried : Nat}
    (h : createWithin t directory pattern mode draws attempts tried = .error cause) :
    createBy directory pattern mode (fun n => ⟨draws n, 0, none⟩) attempts tried t =
      (t, .error cause) := by
  induction attempts generalizing tried with
  | zero =>
      change Except.error _ = _ at h
      obtain rfl := Except.error.inj h
      rfl
  | succ attempts ih =>
      rw [createWithin_succ] at h
      rw [createBy, Chance.outcome]
      split at h
      · cases h
      · rename_i e he
        simp only [he]
        split at h
        · rename_i hk
          rw [if_pos hk]
          exact ih h
        · rename_i hk
          rw [if_neg hk, Except.error.inj h]

theorem create_of_attempt {t : FileTree} {directory pattern : String} {mode : Nat} {draws : Draws}
    {created : TempFile × FileTree} (h : attempt t directory pattern mode (draws 0) = .ok created) :
    create t directory pattern mode draws = .ok created := by
  obtain ⟨attempts, hmax⟩ : ∃ attempts, maxAttempts = attempts + 1 := ⟨9999, rfl⟩
  rw [create, hmax, createWithin_succ, h]

/-! ## The try that succeeds -/

variable {t : FileTree} {directory pattern : String} {mode : Nat} {draws : Draws}
  {created : TempFile × FileTree}

theorem attempt_eq_error_iff {number : Nat} {cause : SystemError} :
    attempt t directory pattern mode number = .error cause ↔
      t.createNew (pathIn directory pattern number) mode = .error cause := by
  simp only [attempt]
  cases t.createNew (pathIn directory pattern number) mode with
  | error e => exact ⟨fun h => by cases h; rfl, fun h => by cases h; rfl⟩
  | ok created => exact ⟨nofun, nofun⟩

theorem attempt_collides_iff (mode : Nat) {number : Nat} :
    (∃ cause, attempt t directory pattern mode number = .error cause ∧
      cause.kind = .alreadyExists) ↔ t.IsTaken (pathIn directory pattern number) := by
  simp only [attempt_eq_error_iff, FileTree.createNew_collides_iff]

theorem attempt_eq_ok_iff {number : Nat} {temp : TempFile} {t' : FileTree} :
    attempt t directory pattern mode number = .ok (temp, t') ↔
      temp.path = pathIn directory pattern number ∧ t.Changeable temp.path temp.place ∧
        t.get? temp.place = none ∧ t' = t.put temp.place (.file (t.newMode mode) []) := by
  refine ⟨attempt_eq_ok, fun ⟨hpath, hplace, hfree, ht⟩ => ?_⟩
  obtain ⟨path, place⟩ := temp
  obtain rfl : path = pathIn directory pattern number := hpath
  rw [ht]
  exact attempt_of_changeable hplace hfree mode

/-- A try that meets an entry is as good as none. -/
theorem createWithin_of_isTaken {attempts drawn : Nat}
    (h : t.IsTaken (pathIn directory pattern (draws drawn))) :
    createWithin t directory pattern mode draws (attempts + 1) drawn =
      createWithin t directory pattern mode draws attempts (drawn + 1) := by
  obtain ⟨cause, hc, hkind⟩ := (attempt_collides_iff mode).mpr h
  rw [createWithin_succ, hc]
  exact if_pos hkind

/-- A try that meets no entry is the last one. -/
theorem createWithin_of_not_isTaken {attempts drawn : Nat}
    (h : ¬ t.IsTaken (pathIn directory pattern (draws drawn))) :
    createWithin t directory pattern mode draws (attempts + 1) drawn = .ok created ↔
      attempt t directory pattern mode (draws drawn) = .ok created := by
  rw [createWithin_succ]
  cases hc : attempt t directory pattern mode (draws drawn) with
  | ok created' => simp
  | error cause =>
      have hkind : cause.kind ≠ .alreadyExists := fun hkind =>
        h ((attempt_collides_iff mode).mp ⟨cause, hc, hkind⟩)
      simp [hkind]

/-- A file is created in the first try that does not meet an entry, if that one succeeds. -/
theorem createWithin_eq_ok_iff {attempts drawn : Nat} :
    createWithin t directory pattern mode draws attempts drawn = .ok created ↔
      ∃ tried < attempts,
        (∀ i < tried, t.IsTaken (pathIn directory pattern (draws (drawn + i)))) ∧
        attempt t directory pattern mode (draws (drawn + tried)) = .ok created := by
  induction attempts generalizing drawn with
  | zero => exact ⟨nofun, fun ⟨n, hn, _⟩ => absurd hn (Nat.not_lt_zero n)⟩
  | succ attempts ih =>
      have hshift : ∀ i, drawn + 1 + i = drawn + (i + 1) := fun i => by omega
      by_cases htaken : t.IsTaken (pathIn directory pattern (draws drawn))
      · simp only [createWithin_of_isTaken htaken, ih, hshift]
        constructor
        · rintro ⟨tried, hlt, hbefore, hok⟩
          refine ⟨tried + 1, Nat.succ_lt_succ hlt, fun i hi => ?_, hok⟩
          cases i with
          | zero => exact htaken
          | succ i => exact hbefore i (Nat.lt_of_succ_lt_succ hi)
        · rintro ⟨tried, hlt, hbefore, hok⟩
          cases tried with
          | zero =>
              -- a try that meets an entry does not succeed
              obtain ⟨cause, hc, -⟩ := (attempt_collides_iff mode).mpr htaken
              cases hc.symm.trans hok
          | succ tried =>
              exact ⟨tried, Nat.lt_of_succ_lt_succ hlt,
                fun i hi => hbefore (i + 1) (Nat.succ_lt_succ hi), hok⟩
      · rw [createWithin_of_not_isTaken htaken]
        refine ⟨fun hok => ⟨0, Nat.succ_pos attempts, nofun, hok⟩, ?_⟩
        rintro ⟨tried, -, hbefore, hok⟩
        cases tried with
        | zero => exact hok
        | succ tried => exact absurd (hbefore 0 (Nat.succ_pos tried)) htaken

/-- A file that is created is created in one of the tries. -/
theorem exists_attempt {attempts tried : Nat}
    (h : createWithin t directory pattern mode draws attempts tried = .ok created) :
    ∃ number, attempt t directory pattern mode number = .ok created := by
  obtain ⟨n, -, -, hok⟩ := createWithin_eq_ok_iff.mp h
  exact ⟨_, hok⟩

end TempFile

end HostInventory
