import HostInventory.Log.Event

/-!
# Sessions

A query runs for an arbitrary monad. Here it runs in one in which everything that is reported is
kept, and in which waiting for something that never comes leaves no result. A session gives a value
if it comes to an end with it whatever was reported before (`Gives`), so that it has no other; and
sessions that give values are put together step by step (`Gives.bind`).
-/

namespace HostInventory

/-- Computations that report events and that may wait forever. -/
abbrev Session :=
  StateT (List Event) Option

instance : MonadLog Session where
  report e := modify (· ++ [e])

namespace Session

variable {α β : Type}

/-- Whether a session comes to an end with a value and takes back nothing that was reported. -/
def Gives (x : Session α) (a : α) : Prop :=
  ∀ log, ∃ said, x.run log = some (a, log ++ said)

theorem gives_pure (a : α) : Gives (pure a) a := by
  intro log
  exact ⟨[], by rw [List.append_nil]; rfl⟩

theorem gives_report (e : Event) : Gives (report e) () := by
  intro log
  exact ⟨[e], rfl⟩

theorem gives_lift {result : Option α} {a : α} (h : result = some a) :
    Gives (StateT.lift result) a := by
  subst h
  intro log
  exact ⟨[], by rw [List.append_nil]; rfl⟩

theorem Gives.bind {x : Session α} {f : α → Session β} {a : α} {b : β} (hx : x.Gives a)
    (hf : (f a).Gives b) : Gives (x >>= f) b := by
  intro log
  obtain ⟨said, hsaid⟩ := hx log
  obtain ⟨more, hmore⟩ := hf (log ++ said)
  refine ⟨said ++ more, ?_⟩
  rw [StateT.run_bind, hsaid, ← List.append_assoc]
  exact hmore

theorem gives_reportAll (es : List Event) : Gives (reportAll es) () := by
  induction es with
  | nil => exact gives_pure ()
  | cons e es ih => exact (gives_report e).bind ih

end Session

end HostInventory
