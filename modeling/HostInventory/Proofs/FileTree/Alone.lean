import HostInventory.FileTree.Replacement

/-!
# One replacement alone

A replacement that runs alone to its end while the system decides as it likes: which numbers are
drawn for names, how much of the content is taken at a time, and what fails.
-/

namespace HostInventory

namespace Replacement

/-- All steps to the end. No stage comes twice, so what the system decides can be told by stage. -/
def runBy (r : Replacement) (chance : Stage → Chance) (t : FileTree) (stage : Stage) :
    FileTree × Except FileError Unit :=
  match _h : stage.result? with
  | some result => (t, result)
  | none =>
    let next := r.step (chance stage) t stage
    runBy r chance next.1 next.2
termination_by r.remaining stage
decreasing_by
  apply r.remaining_step_lt
  rintro result rfl
  cases _h

theorem runBy_returned (r : Replacement) (chance : Stage → Chance) (t : FileTree)
    (result : Except FileError Unit) : r.runBy chance t (.returned result) = (t, result) := by
  rw [runBy]
  rfl

theorem runBy_of_result?_eq_none (r : Replacement) (chance : Stage → Chance) (t : FileTree)
    {s : Stage} (hs : s.result? = none) :
    r.runBy chance t s =
      r.runBy chance (r.step (chance s) t s).1 (r.step (chance s) t s).2 := by
  rw [runBy]
  split
  · rename_i result hresult
    rw [hs] at hresult
    cases hresult
  · rfl

/-- A replacement without faults is one in which the system decides that nothing fails. -/
theorem run_eq_runBy (r : Replacement) (draws : Draws) (t : FileTree) (s : Stage) :
    r.run draws t s = r.runBy (r.smoothChance draws) t s := by
  induction t, s using run.induct r draws with
  | case1 t s result hs =>
      cases s with
      | returned _ =>
          rw [runBy_returned, run]
          rfl
      | _ => cases hs
  | case2 t s hs next ih =>
      rw [runBy_of_result?_eq_none r _ t hs, ← ih, run]
      split
      · rename_i result hresult
        rw [hs] at hresult
        cases hresult
      · rfl

end Replacement

end HostInventory
