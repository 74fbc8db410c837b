import HostInventory.Collection.Basic
import HostInventory.Duration
import HostInventory.Toml.Codec

/-!
# Configuration

The settings of the agent in three sections. Every setting has a default, and what a document does
not say keeps it; names that are no settings are skipped. A section that is not there takes the
standard settings as a whole, a section that is there takes the default of each setting that it
does not give.
-/

namespace HostInventory

inductive LogFormat where
  | text
  | json
deriving Repr, DecidableEq, Inhabited

namespace LogFormat

/-- The format where nothing is said. -/
def standard : LogFormat :=
  .text

def name : LogFormat → String
  | text => "text"
  | json => "json"

def ofName? : String → Option LogFormat
  | "text" => some text
  | "json" => some json
  | _ => none

def ofToml? (v : Toml) : Option LogFormat := do
  ofName? (← v.toName?)

end LogFormat

def ExtractionMode.ofToml? (v : Toml) : Option ExtractionMode := do
  ofName? (← v.toName?)

/-- A setting: its default where nothing is said, otherwise what the reader makes of it. -/
def setting {α : Type} (fallback : α) (read : Toml → Option α) : Option Toml → Option α
  | none => some fallback
  | some v => read v

structure AgentConfig where
  logLevel : String
  logFormat : LogFormat
deriving Repr, DecidableEq

namespace AgentConfig

def defaultLogLevel : String :=
  "info"

def standard : AgentConfig :=
  ⟨defaultLogLevel, .standard⟩

def ofToml? (v : Toml) : Option AgentConfig := do
  match ← v.fields? ["log_level", "log_format"] with
  | [logLevel, logFormat] =>
    return {
      logLevel := ← setting defaultLogLevel Toml.toText? logLevel
      logFormat := ← setting LogFormat.standard LogFormat.ofToml? logFormat }
  | _ => none

end AgentConfig

/-- Settings of the inventory; times are in seconds. -/
structure InventoryConfig where
  mode : ExtractionMode
  stateFile : String
  intervalSecs : UInt64
  commandTimeoutSecs : UInt64
  root : String
  yumSecurity : Bool
  yumMinimal : Bool
deriving Repr, DecidableEq

namespace InventoryConfig

def defaultStateFile : String :=
  "/var/lib/hostkeep/inventory.json"

def defaultIntervalSecs : UInt64 :=
  3600

def defaultCommandTimeoutSecs : UInt64 :=
  600

def defaultRoot : String :=
  "/"

def standard : InventoryConfig where
  mode := .standard
  stateFile := defaultStateFile
  intervalSecs := defaultIntervalSecs
  commandTimeoutSecs := defaultCommandTimeoutSecs
  root := defaultRoot
  yumSecurity := false
  yumMinimal := false

def secsOfToml? (v : Toml) : Option UInt64 :=
  (v.toNatBelow? (Nat.pow 2 64)).map UInt64.ofNat

def ofToml? (v : Toml) : Option InventoryConfig := do
  match ← v.fields? ["mode", "state_file", "interval_secs", "command_timeout_secs", "root",
      "yum_security", "yum_minimal"] with
  | [mode, stateFile, intervalSecs, commandTimeoutSecs, root, yumSecurity, yumMinimal] =>
    return {
      mode := ← setting ExtractionMode.standard ExtractionMode.ofToml? mode
      stateFile := ← setting defaultStateFile Toml.toText? stateFile
      intervalSecs := ← setting defaultIntervalSecs secsOfToml? intervalSecs
      commandTimeoutSecs := ← setting defaultCommandTimeoutSecs secsOfToml? commandTimeoutSecs
      root := ← setting defaultRoot Toml.toText? root
      yumSecurity := ← setting false Toml.toBool? yumSecurity
      yumMinimal := ← setting false Toml.toBool? yumMinimal }
  | _ => none

/-- The time between two rounds, at least a second. -/
def interval (c : InventoryConfig) : Duration :=
  .ofSecs (max c.intervalSecs 1)

/-- The time that a command may take; none means that there is no bound. -/
def commandTimeout (c : InventoryConfig) : Option Duration :=
  if 0 < c.commandTimeoutSecs then some (.ofSecs c.commandTimeoutSecs) else none

end InventoryConfig

structure TaskerConfig where
  /-- Whether memory is given back after each task. -/
  reclaimMemory : Bool
deriving Repr, DecidableEq

namespace TaskerConfig

def standard : TaskerConfig :=
  ⟨false⟩

def ofToml? (v : Toml) : Option TaskerConfig := do
  match ← v.fields? ["reclaim_memory"] with
  | [reclaimMemory] =>
    return ⟨← setting false Toml.toBool? reclaimMemory⟩
  | _ => none

end TaskerConfig

structure Config where
  agent : AgentConfig
  inventory : InventoryConfig
  tasker : TaskerConfig
deriving Repr, DecidableEq

namespace Config

def standard : Config :=
  ⟨.standard, .standard, .standard⟩

def ofToml? (v : Toml) : Option Config := do
  match ← v.fields? ["agent", "inventory", "tasker"] with
  | [agent, inventory, tasker] =>
    return {
      agent := ← setting AgentConfig.standard AgentConfig.ofToml? agent
      inventory := ← setting InventoryConfig.standard InventoryConfig.ofToml? inventory
      tasker := ← setting TaskerConfig.standard TaskerConfig.ofToml? tasker }
  | _ => none

def parse? (text : String) : Option Config := do
  ofToml? (.table (← Toml.parse? text))

end Config

end HostInventory
