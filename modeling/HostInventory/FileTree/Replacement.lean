import HostInventory.FileTree.Temp

/-!
# Replacing a file as a whole

The new content goes to a temporary file beside the target, which then gets its permission bits
and is renamed over the target. A reader of the target therefore finds the old entry or the whole
new file, and a replacement that fails leaves the target as it was and takes its temporary file
away.

A replacement is a machine of small steps, each one call of the system, so that several of them can
be interleaved and any of them can stop for ever between two steps. What the system decides in a
step - the number drawn for a name, how much of the content it takes, whether it fails - comes in
from outside. `FileTree.replace` is one machine run alone to its end.
-/

namespace HostInventory

structure Replacement where
  path : String
  content : Octets
  mode : Nat
deriving Repr, DecidableEq

namespace Replacement

/-- The directory of the temporary file. -/
def directory (r : Replacement) : String :=
  match Path.parent? r.path.toList with
  | some (c :: rest) => String.ofList (c :: rest)
  | _ => "."

/-- The beginning of the temporary file's name. -/
def pattern (r : Replacement) : String :=
  String.ofList ((Path.fileName? r.path.toList).getD [])

inductive Stage where
  /-- Looking for a free name, so many tried. -/
  | naming (tried : Nat)
  /-- Writing what is left of the content. -/
  | writing (temp : TempFile) (left : Octets)
  /-- Waiting for the content to reach the disk. -/
  | syncing (temp : TempFile)
  /-- Setting the permission bits. -/
  | settingMode (temp : TempFile)
  /-- Renaming over the target. -/
  | moving (temp : TempFile)
  /-- Taking the temporary file away after a failure. -/
  | removing (temp : TempFile) (cause : FileError)
  /-- Nothing left to do. -/
  | returned (result : Except FileError Unit)

/-- What the system decides in one step. -/
structure Chance where
  /-- The number drawn for a name. -/
  number : Nat
  /-- How many octets it takes beyond the first. -/
  extra : Nat
  /-- The failure of the step, if it fails where it could succeed. -/
  fault : Option SystemError

/-- What comes of a call of the system, failing where the system decides so. -/
def Chance.outcome {α : Type} (chance : Chance) (answer : Except SystemError α) :
    Except SystemError α :=
  match chance.fault with
  | none => answer
  | some cause => .error cause

/-! ## Where the answers of the system lead -/

/-- The stage after a name has been tried. -/
def afterNaming (r : Replacement) (tried number : Nat) : Except SystemError TempFile → Stage
  | .ok temp => .writing temp r.content
  | .error cause =>
    if cause.kind = .alreadyExists then
      if tried + 1 < TempFile.maxAttempts then .naming (tried + 1)
      else .returned (.error (.creatingTemp (.namesExhausted r.directory r.pattern)))
    else
      let path := TempFile.pathIn r.directory r.pattern number
      .returned (.error (.creatingTemp (.opening path cause)))

/-- The stage after the system has taken so many octets of what was left. -/
def afterWriting (temp : TempFile) (left : Octets) : Except SystemError Nat → Stage
  | .ok taken => .writing temp (left.drop taken)
  | .error cause => .removing temp (.writing temp.path cause)

def afterSyncing (temp : TempFile) : Except SystemError Unit → Stage
  | .ok () => .settingMode temp
  | .error cause => .removing temp (.writing temp.path cause)

def afterSettingMode (temp : TempFile) : Except SystemError Unit → Stage
  | .ok () => .moving temp
  | .error cause => .removing temp (.settingMode temp.path cause)

def afterMoving (r : Replacement) (temp : TempFile) : Except SystemError Unit → Stage
  | .ok () => .returned (.ok ())
  | .error cause => .removing temp (.moving temp.path r.path cause)

/-- How many steps are left at most. -/
def remaining (r : Replacement) : Stage → Nat
  | .naming tried => TempFile.maxAttempts - tried + (r.content.length + 8)
  | .writing _ left => left.length + 6
  | .syncing _ => 5
  | .settingMode _ => 4
  | .moving _ => 3
  | .removing _ _ => 2
  | .returned _ => 1

section

variable (r : Replacement) (temp : TempFile)

theorem remaining_afterNaming_lt (tried number : Nat) (answer : Except SystemError TempFile) :
    r.remaining (r.afterNaming tried number answer) < r.remaining (.naming tried) := by
  unfold afterNaming
  split
  · show r.content.length + 6 < TempFile.maxAttempts - tried + (r.content.length + 8)
    omega
  · split
    · split
      · show TempFile.maxAttempts - (tried + 1) + (r.content.length + 8) <
          TempFile.maxAttempts - tried + (r.content.length + 8)
        omega
      · show 1 < TempFile.maxAttempts - tried + (r.content.length + 8)
        omega
    · show 1 < TempFile.maxAttempts - tried + (r.content.length + 8)
      omega

/-- A write that succeeds takes something. -/
theorem remaining_afterWriting_lt {left : Octets} (hleft : left ≠ [])
    (answer : Except SystemError Nat) (htaken : ∀ taken, answer = .ok taken → 0 < taken) :
    r.remaining (afterWriting temp left answer) < r.remaining (.writing temp left) := by
  cases answer with
  | ok taken =>
    have hpos := List.length_pos_iff.mpr hleft
    have htaken := htaken taken rfl
    simp only [afterWriting, remaining, List.length_drop]
    omega
  | error cause => simp only [afterWriting, remaining]; omega

theorem remaining_afterWritingAll_lt {left : Octets} (hleft : left ≠ [])
    (answer : Except SystemError Unit) :
    r.remaining (afterWriting temp left (answer.map fun _ => left.length)) <
      r.remaining (.writing temp left) := by
  refine r.remaining_afterWriting_lt temp hleft _ fun taken ht => ?_
  cases answer with
  | ok _ =>
    obtain rfl := Except.ok.inj ht
    exact List.length_pos_iff.mpr hleft
  | error cause => cases ht

theorem remaining_afterSyncing_lt (answer : Except SystemError Unit) :
    r.remaining (afterSyncing temp answer) < r.remaining (.syncing temp) := by
  cases answer <;> simp only [afterSyncing, remaining] <;> omega

theorem remaining_afterSettingMode_lt (answer : Except SystemError Unit) :
    r.remaining (afterSettingMode temp answer) < r.remaining (.settingMode temp) := by
  cases answer <;> simp only [afterSettingMode, remaining] <;> omega

theorem remaining_afterMoving_lt (answer : Except SystemError Unit) :
    r.remaining (r.afterMoving temp answer) < r.remaining (.moving temp) := by
  cases answer <;> simp only [afterMoving, remaining] <;> omega

end

/-! ## In a tree -/

def tryName (r : Replacement) (t : FileTree) (tried number : Nat) : FileTree × Stage :=
  match TempFile.attempt t r.directory r.pattern r.mode number with
  | .ok (temp, t') => (t', r.afterNaming tried number (.ok temp))
  | .error cause => (t, r.afterNaming tried number (.error cause))

def step (r : Replacement) (chance : Chance) (t : FileTree) : Stage → FileTree × Stage
  | .naming tried =>
    match chance.fault with
    | none => tryName r t tried chance.number
    | some cause =>
      let path := TempFile.pathIn r.directory r.pattern chance.number
      (t, .returned (.error (.creatingTemp (.opening path cause))))
  | .writing temp [] => (t, .syncing temp)
  | .writing temp (octet :: left) =>
    match chance.fault with
    | none =>
      (t.append temp.place (octet :: left.take chance.extra),
        afterWriting temp (octet :: left) (.ok (chance.extra + 1)))
    | some cause => (t, afterWriting temp (octet :: left) (.error cause))
  | .syncing temp =>
    match chance.fault with
    | none => (t, afterSyncing temp (.ok ()))
    | some cause => (t, afterSyncing temp (.error cause))
  | .settingMode temp =>
    match chance.outcome (t.setMode temp.path r.mode) with
    | .ok t' => (t', afterSettingMode temp (.ok ()))
    | .error cause => (t, afterSettingMode temp (.error cause))
  | .moving temp =>
    match chance.outcome (t.rename temp.path r.path) with
    | .ok t' => (t', r.afterMoving temp (.ok ()))
    | .error cause => (t, r.afterMoving temp (.error cause))
  | .removing temp cause => ((t.unlink temp.path).toOption.getD t, .returned (.error cause))
  | .returned result => (t, .returned result)

/-- Every step but the idle one after the end gets a replacement closer to its end. -/
theorem remaining_step_lt (r : Replacement) (chance : Chance) (t : FileTree) {stage : Stage}
    (h : ∀ result, stage ≠ .returned result) :
    r.remaining (r.step chance t stage).2 < r.remaining stage := by
  cases stage with
  | naming tried =>
    simp only [step]
    split
    · unfold tryName
      split <;> simp only [remaining_afterNaming_lt]
    · show 1 < TempFile.maxAttempts - tried + (r.content.length + 8)
      omega
  | writing temp left =>
    cases left with
    | nil => simp only [step, remaining, List.length_nil]; omega
    | cons octet left =>
      simp only [step]
      split
      · refine r.remaining_afterWriting_lt temp (List.cons_ne_nil octet left)
          (.ok (chance.extra + 1)) fun taken ht => ?_
        obtain rfl := Except.ok.inj ht
        exact Nat.succ_pos chance.extra
      · exact r.remaining_afterWriting_lt temp (List.cons_ne_nil octet left) (.error _)
          fun _ ht => nomatch ht
  | syncing temp => simp only [step]; split <;> simp only [remaining_afterSyncing_lt]
  | settingMode temp => simp only [step]; split <;> simp only [remaining_afterSettingMode_lt]
  | moving temp => simp only [step]; split <;> simp only [remaining_afterMoving_lt]
  | removing temp cause => simp only [step, remaining]; omega
  | returned result => exact absurd rfl (h result)

/-- The result of a replacement that has come to its end. -/
def Stage.result? : Stage → Option (Except FileError Unit)
  | .returned result => some result
  | _ => none

/-- What the system decides when nothing fails and a write takes all that it is given. -/
def smoothChance (r : Replacement) (draws : Draws) : Stage → Chance
  | .naming tried => ⟨draws tried, r.content.length, none⟩
  | _ => ⟨0, r.content.length, none⟩

/-- All steps to the end without a fault of the system. -/
def run (r : Replacement) (draws : Draws) (t : FileTree) (stage : Stage) :
    FileTree × Except FileError Unit :=
  match _h : stage.result? with
  | some result => (t, result)
  | none =>
    let next := r.step (r.smoothChance draws stage) t stage
    run r draws next.1 next.2
termination_by r.remaining stage
decreasing_by
  apply r.remaining_step_lt
  rintro result rfl
  cases _h

end Replacement

/-- Replaces the file at a path by one with the given content and permission bits. -/
def FileTree.replace (t : FileTree) (path : String) (content : Octets) (mode : Nat)
    (draws : Draws) : FileTree × Except FileError Unit :=
  Replacement.run ⟨path, content, mode⟩ draws t (.naming 0)

end HostInventory
