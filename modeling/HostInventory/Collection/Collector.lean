import HostInventory.Collection.Basic
import HostInventory.Extraction.Basic
import HostInventory.Provider.Basic

/-!
# Collecting

A collector asks its providers one after the other. One that fails is noted and does not keep the
others from being asked; of several providers of one manager the last that succeeds sets the list.
Depending on the mode the packages of dpkg come from an extraction instead, or are compared with
one.
-/

namespace HostInventory

/-- How a collector treats packages of dpkg. -/
inductive Treatment (m : Type → Type) where
  | legacy
  | structured (extractor : Extractor m)
  | verify (extractor : Extractor m)

/-- Whom to ask, and how. -/
structure Collector (m : Type → Type) where
  installed : List (Provider m)
  updates : List (Provider m)
  treatment : Treatment m

def Treatment.mode {m : Type → Type} : Treatment m → ExtractionMode
  | legacy => .legacy
  | structured _ => .structured
  | verify _ => .verify

namespace Collector

def mode {m : Type → Type} (c : Collector m) : ExtractionMode :=
  c.treatment.mode

/-- A collector for a mode; all modes but the first need an extractor. -/
def ofParts {m : Type → Type} (installed updates : List (Provider m))
    (extractor : Option (Extractor m)) (mode : ExtractionMode) :
    Except InventoryError (Collector m) :=
  match mode, extractor with
  | .legacy, _ => .ok ⟨installed, updates, .legacy⟩
  | .structured, some e => .ok ⟨installed, updates, .structured e⟩
  | .verify, some e => .ok ⟨installed, updates, .verify e⟩
  | mode, none =>
    .error (.configuration ("extraction mode " ++ mode.title ++ " requires an extractor"))

variable {m : Type → Type} [Monad m] [MonadLog m]

def noteFailure (c : Collection) (source message : String) : m Collection := do
  let failure : CollectionFailure := ⟨source, message⟩
  report failure.event
  return c.withFailure failure

def ask (c : Collection) (provider : Provider m) : m Collection := do
  if ← provider.isAvailable then
    match ← provider.packages with
    | .ok packages => return c.withPackages provider.manager packages
    | .error e => noteFailure c provider.manager.name e.message
  else
    report ⟨.debug, "package manager not available", [("manager", .text provider.manager.name)]⟩
    return c

def askAll (c : Collection) : List (Provider m) → m Collection
  | [] => return c
  | provider :: rest => do askAll (← ask c provider) rest

/-- Whether a provider of installed packages is asked in a mode. -/
def isAsked (mode : ExtractionMode) (provider : Provider m) : Bool :=
  !(provider.manager == .deb && mode == .structured)

/-- The name under which a failing extraction is noted. -/
def extractionSource : String :=
  "extractor"

/-- Extracts, noting what was lost. -/
def extract (c : Collection) (extractor : Extractor m) :
    m (Collection × Option (List Package)) := do
  match ← extractor.extract with
  | .error e => return (← noteFailure c extractionSource e.message, none)
  | .ok extraction =>
    let c ← match extraction.partialFailure with
      | some reason =>
        noteFailure c extractionSource ("scan partially failed, failure reason: " ++ reason)
      | none => pure c
    return (c, some extraction.packages)

def treat (c : Collection) : Treatment m → m Collection
  | .legacy => return c
  | .structured extractor => do
    match ← extract c extractor with
    | (c, some packages) => return c.withPackages .deb packages
    | (c, none) => return c
  | .verify extractor => do
    match ← extract c extractor with
    | (c, some packages) =>
      let comparison := Comparison.ofLists (c.packages.get .deb) packages
      reportAll comparison.events
      return { c with comparison := some comparison }
    | (c, none) => return c

/-- The figures of a collection, said at its end. -/
def finishedEvent (message figure : String) (c : Collection) : Event :=
  ⟨.info, message, [(figure, .count c.packages.size), ("failures", .count c.failures.length)]⟩

variable [MonadClock m]

def installedPackages (collector : Collector m) : m Collection := do
  report ⟨.info, "collecting installed packages", []⟩
  let c := Collection.start (← MonadClock.now)
  let c ← askAll c (collector.installed.filter (isAsked collector.mode))
  let c ← treat c collector.treatment
  report (finishedEvent "installed package collection completed" "packages" c)
  return c

def packageUpdates (collector : Collector m) : m Collection := do
  report ⟨.info, "collecting package updates", []⟩
  let c ← askAll (Collection.start (← MonadClock.now)) collector.updates
  report (finishedEvent "package update collection completed" "updates" c)
  return c

end Collector

end HostInventory
