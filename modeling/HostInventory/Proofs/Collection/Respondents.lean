import HostInventory.Collection.Collector

/-!
# Collecting from known respondents

A collector asks whatever computations it is given. Here it is given respondents of which it is
known beforehand whether they are available and what they answer, and a journal that keeps who was
called, in order. What a round gives is then a function of the respondents: asking them one after
the other is a fold over those that are called (`run_askAll`), and the lists, the failures and the
comparison of the fold are read off the respondents (`get_foldl_after`, `failures_foldl_after`,
`comparison_foldl_after`).
-/

namespace HostInventory

/-! ## Respondents and the journal -/

/-- Someone who can be asked for packages. -/
structure Respondent where
  manager : Manager
  available : Bool
  answer : Except QueryError (List Package)
deriving Repr

namespace Respondent

/-- What it reports about the packages of a manager. -/
def report? (m : Manager) (r : Respondent) : Option (List Package) :=
  if r.manager = m then r.answer.toOption else none

def failure? (r : Respondent) : Option CollectionFailure :=
  match r.answer with
  | .ok _ => none
  | .error e => some ⟨r.manager.name, e.message⟩

/-- Whether it is called when installed packages are collected in a mode. -/
def isCalled (mode : ExtractionMode) (r : Respondent) : Bool :=
  r.available && !(r.manager == .deb && mode == .structured)

end Respondent

inductive Called (κ : Type) where
  | respondent (name : κ)
  | extractor
deriving Repr, DecidableEq

/-- The time that the clock shows, and all calls so far. -/
structure Journal (κ : Type) where
  time : Timestamp
  calls : List (Called κ)
deriving Repr, DecidableEq

def Journal.with {κ : Type} (j : Journal κ) (calls : List (Called κ)) : Journal κ :=
  { j with calls := j.calls ++ calls }

/-- Computations that keep a journal. -/
abbrev Recorded (κ : Type) :=
  StateM (Journal κ)

section

variable {κ α β : Type}

/-- What a computation gives, and the journal after it. -/
def Recorded.run (x : Recorded κ α) (j : Journal κ) : α × Journal κ :=
  Id.run (StateT.run x j)

@[simp] theorem Recorded.run_pure (a : α) (j : Journal κ) :
    Recorded.run (pure a) j = (a, j) :=
  rfl

@[simp] theorem Recorded.run_bind (x : Recorded κ α) (f : α → Recorded κ β) (j : Journal κ) :
    Recorded.run (x >>= f) j = (f (x.run j).1).run (x.run j).2 :=
  rfl

instance : MonadLog (Recorded κ) where
  report _ := pure ()

instance : MonadClock (Recorded κ) where
  now := return (← get).time

def Respondent.provider (r : κ × Respondent) : Provider (Recorded κ) where
  manager := r.2.manager
  isAvailable := return r.2.available
  packages := do
    modify (·.with [.respondent r.1])
    return r.2.answer

def Extractor.known (outcome : Except InventoryError Extraction) : Extractor (Recorded κ) where
  extract := do
    modify (·.with [.extractor])
    return outcome

end

/-! ## What a respondent does to a collection -/

namespace Collection

def after (c : Collection) (r : Respondent) : Collection :=
  match r.answer with
  | .ok packages => c.withPackages r.manager packages
  | .error e => c.withFailure ⟨r.manager.name, e.message⟩

/-- Of several reports on one manager the last is kept. -/
theorem get_foldl_after (m : Manager) (rs : List Respondent) (c : Collection) :
    (rs.foldl after c).packages.get m =
      (rs.filterMap (·.report? m)).getLast?.getD (c.packages.get m) := by
  induction rs generalizing c with
  | nil => rfl
  | cons r rest ih =>
      rw [List.foldl_cons, ih]
      cases ha : r.answer with
      | error e => simp [after, Respondent.report?, ha, withFailure, Except.toOption]
      | ok ps =>
          by_cases hm : r.manager = m
          · subst hm
            simp [after, Respondent.report?, ha, withPackages, Except.toOption,
              PackageLists.get_set_same, List.getLast?_cons]
          · simp [after, Respondent.report?, ha, withPackages, hm,
              PackageLists.get_set_other _ _ (Ne.symm hm)]

theorem failures_foldl_after (rs : List Respondent) (c : Collection) :
    (rs.foldl after c).failures = c.failures ++ rs.filterMap Respondent.failure? := by
  induction rs generalizing c with
  | nil => simp
  | cons r rest ih =>
      rw [List.foldl_cons, ih]
      cases ha : r.answer <;>
        simp [after, Respondent.failure?, ha, withFailure, withPackages]

theorem comparison_foldl_after (rs : List Respondent) (c : Collection) :
    (rs.foldl after c).comparison = c.comparison := by
  induction rs generalizing c with
  | nil => rfl
  | cons r rest ih =>
      rw [List.foldl_cons, ih]
      cases ha : r.answer <;> simp [after, ha, withFailure, withPackages]

end Collection

/-! ## Asking -/

namespace Collector

variable {κ : Type}

theorem run_ask (c : Collection) (r : κ × Respondent) (j : Journal κ) :
    Recorded.run (ask c (Respondent.provider r)) j =
      if r.2.available then (c.after r.2, j.with [.respondent r.1]) else (c, j) := by
  obtain ⟨name, m, available, answer⟩ := r
  cases available with
  | false => rfl
  | true => cases answer <;> rfl

theorem run_askAll (rs : List (κ × Respondent)) (c : Collection) (j : Journal κ) :
    Recorded.run (askAll c (rs.map Respondent.provider)) j =
      (((rs.filter (·.2.available)).map (·.2)).foldl Collection.after c,
        j.with ((rs.filter (·.2.available)).map (.respondent ·.1))) := by
  induction rs generalizing c j with
  | nil => simp [askAll, Journal.with]
  | cons r rest ih =>
      simp only [List.map_cons, askAll, Recorded.run_bind, run_ask, ih]
      cases ha : r.2.available <;> simp [ha, Journal.with]

end Collector

end HostInventory
