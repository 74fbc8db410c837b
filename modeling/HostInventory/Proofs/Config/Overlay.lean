import HostInventory.Config.Basic
import HostInventory.Proofs.Toml.Names
import Mathlib.Tactic.Tauto

/-!
# Settings over their defaults

A document replaces the settings that it gives and leaves all others at their defaults, in
whichever sections and in whatever order it gives them; names that are no settings change nothing
(`overlays_defaults`). A section that is absent takes its standard settings as a whole, a section
that is there the default of each setting apart, and the two agree. One setting with a value that
means nothing makes the whole document none.
-/

namespace HostInventory

namespace Toml

/-- Whether a value is one out of a set of names: a string, or the only name in a table, its value
being empty. -/
def IsName (v : Toml) (name : String) : Prop :=
  v = .string name ∨ v = .table [(name, .array [])] ∨ v = .table [(name, .table [])]

theorem toText?_eq_some_iff {v : Toml} {s : String} : v.toText? = some s ↔ v = .string s := by
  cases v <;> simp [toText?]

theorem toBool?_eq_some_iff {v : Toml} {b : Bool} : v.toBool? = some b ↔ v = .boolean b := by
  cases v <;> simp [toBool?]

theorem toNatBelow?_eq_some_iff {v : Toml} {bound n : Nat} :
    v.toNatBelow? bound = some n ↔ n < bound ∧ v = .integer n := by
  cases v with
  | integer m =>
      simp only [toNatBelow?, Option.ite_none_right_eq_some, Option.some.injEq, integer.injEq]
      omega
  | _ => simp [toNatBelow?]

theorem isEmpty_iff {v : Toml} : v.isEmpty = true ↔ v = .array [] ∨ v = .table [] := by
  rw [isEmpty.eq_def]
  split <;> simp_all

theorem toName?_eq_some_iff {v : Toml} {name : String} :
    v.toName? = some name ↔ v.IsName name := by
  rw [toName?.eq_def, IsName]
  split
  · simp
  · rename_i n value
    simp only [Option.ite_none_right_eq_some, isEmpty_iff, Option.some.injEq, reduceCtorEq,
      false_or, table.injEq, List.cons.injEq, Prod.mk.injEq, and_true]
    tauto
  · rename_i hstring htable
    simp only [reduceCtorEq, false_iff, not_or]
    exact ⟨fun h => hstring _ h, fun h => htable _ _ h, fun h => htable _ _ h⟩

def isTable : Toml → Bool
  | table _ => true
  | _ => false

theorem isTable_iff {v : Toml} : v.isTable = true ↔ ∃ members, v = .table members := by
  cases v <;> simp [isTable]

/-- Whether every number under a name that is none of these is within bounds. -/
def SkipsBounded (names : List String) (members : List (String × Toml)) : Prop :=
  ∀ m ∈ members, m.1 ∉ names → m.2.isBounded = true

theorem fields?_table_eq_some_iff {names : List String} {members : List (String × Toml)}
    (h : (members.map Prod.fst).Nodup) {values : List (Option Toml)} :
    (table members).fields? names = some values ↔
      SkipsBounded names members ∧ values = names.map fun name => members.lookup name := by
  rw [fields?, Fields.ofMembers?_eq_lookup names h, Option.ite_none_right_eq_some,
    List.all_eq_true, Option.some.injEq, eq_comm (a := values), SkipsBounded]
  simp [Decidable.or_iff_not_imp_left]

/-- What is made of the fields of a table is made of the values under their names. -/
theorem fields?_table_bind_iff {α : Type} {names : List String} {members : List (String × Toml)}
    (h : (members.map Prod.fst).Nodup) {f : List (Option Toml) → Option α} {x : α} :
    ((table members).fields? names).bind f = some x ↔
      SkipsBounded names members ∧ f (names.map fun name => members.lookup name) = some x := by
  rw [Option.bind_eq_some_iff]
  simp only [fields?_table_eq_some_iff h]
  constructor
  · rintro ⟨values, ⟨hskips, rfl⟩, hx⟩
    exact ⟨hskips, hx⟩
  · rintro ⟨hskips, hx⟩
    exact ⟨_, ⟨hskips, rfl⟩, hx⟩

theorem membersBounded_iff {members : List (String × Toml)} :
    membersBounded members = true ↔ ∀ m ∈ members, m.2.isBounded = true := by
  induction members with
  | nil => simp [membersBounded]
  | cons m members ih => rw [membersBounded, Bool.and_eq_true, ih, List.forall_mem_cons]

theorem skipsBounded_of_isBounded {members : List (String × Toml)}
    (h : (table members).isBounded = true) (names : List String) : SkipsBounded names members := by
  rw [isBounded, membersBounded_iff] at h
  exact fun m hm _ => h m hm

end Toml

theorem LogFormat.ofToml?_eq_some_iff {v : Toml} {f : LogFormat} :
    ofToml? v = some f ↔ v.IsName f.name := by
  have hname : ∀ s, ofName? s = some f ↔ s = f.name := by
    intro s
    rw [ofName?.eq_def]
    split <;> cases f <;> simp_all [name]
  rw [ofToml?, Option.bind_eq_bind, Option.bind_eq_some_iff]
  simp only [Toml.toName?_eq_some_iff, hname, exists_eq_right]

theorem ExtractionMode.ofToml?_eq_some_iff {v : Toml} {mode : ExtractionMode} :
    ofToml? v = some mode ↔ v.IsName mode.name := by
  have hname : ∀ s, ofName? s = some mode ↔ s = mode.name := by
    intro s
    rw [ofName?.eq_def]
    split <;> cases mode <;> simp_all [name]
  rw [ofToml?, Option.bind_eq_bind, Option.bind_eq_some_iff]
  simp only [Toml.toName?_eq_some_iff, hname, exists_eq_right]

theorem InventoryConfig.secsOfToml?_eq_some_iff {v : Toml} {n : UInt64} :
    secsOfToml? v = some n ↔ v = .integer n.toNat := by
  rw [secsOfToml?, Option.map_eq_some_iff]
  constructor
  · rintro ⟨m, hm, rfl⟩
    obtain ⟨hlt, rfl⟩ := Toml.toNatBelow?_eq_some_iff.mp hm
    rw [UInt64.toNat_ofNat_of_lt' hlt]
  · rintro rfl
    exact ⟨n.toNat, Toml.toNatBelow?_eq_some_iff.mpr ⟨n.toNat_lt, rfl⟩, UInt64.ofNat_toNat⟩

/-! ## One setting -/

/-- What holds of a setting: its default where nothing is given, otherwise what the given value
means. -/
def Holds {α : Type} (fallback : α) (Means : Toml → α → Prop) (given : Option Toml) (x : α) :
    Prop :=
  match given with
  | none => x = fallback
  | some v => Means v x

theorem setting_eq_some_iff {α : Type} {fallback : α} {read : Toml → Option α}
    {Means : Toml → α → Prop} (h : ∀ v x, read v = some x ↔ Means v x) {given : Option Toml}
    {x : α} : setting fallback read given = some x ↔ Holds fallback Means given x := by
  cases given with
  | none => simp [setting, Holds, eq_comm]
  | some v => exact h v x

/-! ## Sections -/

open Toml

theorem AgentConfig.ofToml?_table_iff {members : List (String × Toml)}
    (hnames : (members.map Prod.fst).Nodup) {a : AgentConfig} :
    ofToml? (.table members) = some a ↔
      SkipsBounded ["log_level", "log_format"] members ∧
        Holds defaultLogLevel (fun v s => v = .string s) (members.lookup "log_level") a.logLevel ∧
        Holds .standard (fun v f => v.IsName f.name) (members.lookup "log_format") a.logFormat := by
  rw [← setting_eq_some_iff fun _ _ => toText?_eq_some_iff,
    ← setting_eq_some_iff fun _ _ => LogFormat.ofToml?_eq_some_iff]
  rw [ofToml?, Option.bind_eq_bind, fields?_table_bind_iff hnames]
  refine and_congr_right fun _ => ?_
  simp only [List.map_cons, List.map_nil, Option.bind_eq_bind, Option.bind_eq_some_iff,
    Option.pure_def, Option.some.injEq]
  constructor
  · rintro ⟨_, hlevel, _, hformat, rfl⟩
    exact ⟨hlevel, hformat⟩
  · rintro ⟨hlevel, hformat⟩
    exact ⟨_, hlevel, _, hformat, rfl⟩

theorem InventoryConfig.ofToml?_table_iff {members : List (String × Toml)}
    (hnames : (members.map Prod.fst).Nodup) {i : InventoryConfig} :
    ofToml? (.table members) = some i ↔
      SkipsBounded ["mode", "state_file", "interval_secs", "command_timeout_secs", "root",
          "yum_security", "yum_minimal"] members ∧
        Holds .standard (fun v mode => v.IsName mode.name) (members.lookup "mode") i.mode ∧
        Holds defaultStateFile (fun v s => v = .string s) (members.lookup "state_file")
          i.stateFile ∧
        Holds defaultIntervalSecs (fun v n => v = .integer n.toNat)
          (members.lookup "interval_secs") i.intervalSecs ∧
        Holds defaultCommandTimeoutSecs (fun v n => v = .integer n.toNat)
          (members.lookup "command_timeout_secs") i.commandTimeoutSecs ∧
        Holds defaultRoot (fun v s => v = .string s) (members.lookup "root") i.root ∧
        Holds false (fun v b => v = .boolean b) (members.lookup "yum_security") i.yumSecurity ∧
        Holds false (fun v b => v = .boolean b) (members.lookup "yum_minimal") i.yumMinimal := by
  simp only [← setting_eq_some_iff fun _ _ => toText?_eq_some_iff,
    ← setting_eq_some_iff fun _ _ => toBool?_eq_some_iff,
    ← setting_eq_some_iff fun _ _ => secsOfToml?_eq_some_iff,
    ← setting_eq_some_iff fun _ _ => ExtractionMode.ofToml?_eq_some_iff]
  rw [ofToml?, Option.bind_eq_bind, fields?_table_bind_iff hnames]
  refine and_congr_right fun _ => ?_
  simp only [List.map_cons, List.map_nil, Option.bind_eq_bind, Option.bind_eq_some_iff,
    Option.pure_def, Option.some.injEq]
  constructor
  · rintro ⟨_, hmode, _, hfile, _, hinterval, _, htimeout, _, hroot, _, hsecurity, _, hminimal,
      rfl⟩
    exact ⟨hmode, hfile, hinterval, htimeout, hroot, hsecurity, hminimal⟩
  · rintro ⟨hmode, hfile, hinterval, htimeout, hroot, hsecurity, hminimal⟩
    exact ⟨_, hmode, _, hfile, _, hinterval, _, htimeout, _, hroot, _, hsecurity, _, hminimal,
      rfl⟩

theorem TaskerConfig.ofToml?_table_iff {members : List (String × Toml)}
    (hnames : (members.map Prod.fst).Nodup) {t : TaskerConfig} :
    ofToml? (.table members) = some t ↔
      SkipsBounded ["reclaim_memory"] members ∧
        Holds false (fun v b => v = .boolean b) (members.lookup "reclaim_memory")
          t.reclaimMemory := by
  rw [← setting_eq_some_iff fun _ _ => toBool?_eq_some_iff]
  rw [ofToml?, Option.bind_eq_bind, fields?_table_bind_iff hnames]
  refine and_congr_right fun _ => ?_
  simp only [List.map_cons, List.map_nil, Option.bind_eq_bind, Option.bind_eq_some_iff,
    Option.pure_def, Option.some.injEq]
  constructor
  · rintro ⟨_, hreclaim, rfl⟩
    exact hreclaim
  · intro hreclaim
    exact ⟨_, hreclaim, rfl⟩

/-! ## Documents -/

namespace Config

theorem ofToml?_table_iff {doc : List (String × Toml)} (hnames : (doc.map Prod.fst).Nodup)
    {c : Config} :
    ofToml? (.table doc) = some c ↔
      SkipsBounded ["agent", "inventory", "tasker"] doc ∧
        Holds .standard (fun v a => AgentConfig.ofToml? v = some a) (doc.lookup "agent") c.agent ∧
        Holds .standard (fun v i => InventoryConfig.ofToml? v = some i) (doc.lookup "inventory")
          c.inventory ∧
        Holds .standard (fun v t => TaskerConfig.ofToml? v = some t) (doc.lookup "tasker")
          c.tasker := by
  simp only [← setting_eq_some_iff fun _ _ => Iff.rfl]
  rw [ofToml?, Option.bind_eq_bind, fields?_table_bind_iff hnames]
  refine and_congr_right fun _ => ?_
  simp only [List.map_cons, List.map_nil, Option.bind_eq_bind, Option.bind_eq_some_iff,
    Option.pure_def, Option.some.injEq]
  constructor
  · rintro ⟨_, hagent, _, hinventory, _, htasker, rfl⟩
    exact ⟨hagent, hinventory, htasker⟩
  · rintro ⟨hagent, hinventory, htasker⟩
    exact ⟨_, hagent, _, hinventory, _, htasker, rfl⟩

inductive Setting where
  | logLevel
  | logFormat
  | mode
  | stateFile
  | intervalSecs
  | commandTimeoutSecs
  | root
  | yumSecurity
  | yumMinimal
  | reclaimMemory
deriving Repr, DecidableEq

namespace Setting

/-- The name of the section that a setting is in. -/
def sectionName : Setting → String
  | logLevel => "agent"
  | logFormat => "agent"
  | reclaimMemory => "tasker"
  | _ => "inventory"

/-- The name of a setting in its section. -/
def name : Setting → String
  | logLevel => "log_level"
  | logFormat => "log_format"
  | mode => "mode"
  | stateFile => "state_file"
  | intervalSecs => "interval_secs"
  | commandTimeoutSecs => "command_timeout_secs"
  | root => "root"
  | yumSecurity => "yum_security"
  | yumMinimal => "yum_minimal"
  | reclaimMemory => "reclaim_memory"

def Value : Setting → Type
  | logLevel => String
  | logFormat => LogFormat
  | mode => ExtractionMode
  | stateFile => String
  | intervalSecs => UInt64
  | commandTimeoutSecs => UInt64
  | root => String
  | yumSecurity => Bool
  | yumMinimal => Bool
  | reclaimMemory => Bool

/-- What a configuration has a setting set to. -/
def value (c : Config) : (s : Setting) → s.Value
  | logLevel => c.agent.logLevel
  | logFormat => c.agent.logFormat
  | mode => c.inventory.mode
  | stateFile => c.inventory.stateFile
  | intervalSecs => c.inventory.intervalSecs
  | commandTimeoutSecs => c.inventory.commandTimeoutSecs
  | root => c.inventory.root
  | yumSecurity => c.inventory.yumSecurity
  | yumMinimal => c.inventory.yumMinimal
  | reclaimMemory => c.tasker.reclaimMemory

/-- Whether a value in a document stands for what a setting may be set to: texts are strings,
formats and modes are known names, times are whole numbers that are not negative and fit in 64
bits, and switches are truth values. -/
def Means : (s : Setting) → Toml → s.Value → Prop
  | .logLevel, v, (text : String) => v = .string text
  | .logFormat, v, (format : LogFormat) => v.IsName format.name
  | .mode, v, (m : ExtractionMode) => v.IsName m.name
  | .stateFile, v, (text : String) => v = .string text
  | .intervalSecs, v, (secs : UInt64) => v = .integer secs.toNat
  | .commandTimeoutSecs, v, (secs : UInt64) => v = .integer secs.toNat
  | .root, v, (text : String) => v = .string text
  | .yumSecurity, v, (on : Bool) => v = .boolean on
  | .yumMinimal, v, (on : Bool) => v = .boolean on
  | .reclaimMemory, v, (on : Bool) => v = .boolean on

/-- What a document gives for a setting, in the table that is its section. -/
def given? (doc : List (String × Toml)) (s : Setting) : Option Toml :=
  match doc.lookup s.sectionName with
  | some (.table members) => members.lookup s.name
  | _ => none

/-- A setting is set to what the document gives, or stays at its default. -/
def Overlays (doc : List (String × Toml)) (c : Config) (s : Setting) : Prop :=
  Holds (s.value standard) s.Means (s.given? doc) (s.value c)

theorem overlays_of_absent {doc : List (String × Toml)} {c : Config} {s : Setting}
    (h : doc.lookup s.sectionName = none) :
    s.Overlays doc c ↔ s.value c = s.value standard := by
  have hgiven : s.given? doc = none := by rw [given?, h]
  rw [Overlays, hgiven]
  rfl

theorem overlays_of_table {doc members : List (String × Toml)} {c : Config} {s : Setting}
    (h : doc.lookup s.sectionName = some (.table members)) :
    s.Overlays doc c ↔
      Holds (s.value standard) s.Means (members.lookup s.name) (s.value c) := by
  have hgiven : s.given? doc = members.lookup s.name := by rw [given?, h]
  rw [Overlays, hgiven]

end Setting

/-- The settings are all that there is to a configuration. -/
theorem eq_of_value {c c' : Config} (h : ∀ s : Setting, s.value c = s.value c') : c = c' := by
  obtain ⟨⟨_, _⟩, ⟨_, _, _, _, _, _, _⟩, ⟨_⟩⟩ := c
  obtain ⟨⟨_, _⟩, ⟨_, _, _, _, _, _, _⟩, ⟨_⟩⟩ := c'
  have hlevel := h .logLevel
  have hformat := h .logFormat
  have hmode := h .mode
  have hfile := h .stateFile
  have hinterval := h .intervalSecs
  have htimeout := h .commandTimeoutSecs
  have hroot := h .root
  have hsecurity := h .yumSecurity
  have hminimal := h .yumMinimal
  have hreclaim := h .reclaimMemory
  simp only [Setting.value] at *
  subst hlevel hformat hmode hfile hinterval htimeout hroot hsecurity hminimal hreclaim
  rfl

/-- Whether a section is absent or a table. -/
def IsSection (doc : List (String × Toml)) (sectionName : String) : Prop :=
  ∀ v, doc.lookup sectionName = some v → ∃ members, v = .table members

theorem isSection_of_tables {doc : List (String × Toml)}
    (h : (doc.all fun m => m.2.isTable) = true) (sectionName : String) :
    IsSection doc sectionName :=
  fun v hlookup =>
    isTable_iff.mp (List.all_eq_true.mp h (sectionName, v) (Fields.mem_of_lookup hlookup))

/-- A section that is there as a table holds different names. -/
theorem names_of_lookup {doc members : List (String × Toml)} (hdoc : (Toml.table doc).Distinct)
    {sectionName : String} (h : doc.lookup sectionName = some (.table members)) :
    (members.map Prod.fst).Nodup := by
  cases hdoc with
  | table _ hinner =>
      cases hinner (sectionName, .table members) (Fields.mem_of_lookup h) with
      | table hnames _ => exact hnames

section

variable {doc : List (String × Toml)} {c : Config} (hdoc : (Toml.table doc).Distinct)

include hdoc

theorem agent_iff (hsection : IsSection doc "agent") :
    Holds .standard (fun v a => AgentConfig.ofToml? v = some a) (doc.lookup "agent") c.agent ↔
      (∀ members, doc.lookup "agent" = some (.table members) →
        SkipsBounded ["log_level", "log_format"] members) ∧
      Setting.logLevel.Overlays doc c ∧ Setting.logFormat.Overlays doc c := by
  cases h : doc.lookup "agent" with
  | none =>
      rw [Setting.overlays_of_absent (s := .logLevel) h,
        Setting.overlays_of_absent (s := .logFormat) h]
      have hdefaults : c.agent = .standard ↔
          c.agent.logLevel = AgentConfig.defaultLogLevel ∧ c.agent.logFormat = .standard := by
        obtain ⟨⟨logLevel, logFormat⟩, inventory, tasker⟩ := c
        simp [AgentConfig.standard]
      exact hdefaults.trans (and_iff_right nofun).symm
  | some v =>
      obtain ⟨members, rfl⟩ := hsection v h
      rw [Setting.overlays_of_table (s := .logLevel) h,
        Setting.overlays_of_table (s := .logFormat) h]
      simp only [Option.some.injEq, table.injEq, forall_eq']
      exact AgentConfig.ofToml?_table_iff (names_of_lookup hdoc h)

theorem inventory_iff (hsection : IsSection doc "inventory") :
    Holds .standard (fun v i => InventoryConfig.ofToml? v = some i) (doc.lookup "inventory")
        c.inventory ↔
      (∀ members, doc.lookup "inventory" = some (.table members) →
        SkipsBounded ["mode", "state_file", "interval_secs", "command_timeout_secs", "root",
          "yum_security", "yum_minimal"] members) ∧
      Setting.mode.Overlays doc c ∧ Setting.stateFile.Overlays doc c ∧
      Setting.intervalSecs.Overlays doc c ∧ Setting.commandTimeoutSecs.Overlays doc c ∧
      Setting.root.Overlays doc c ∧ Setting.yumSecurity.Overlays doc c ∧
      Setting.yumMinimal.Overlays doc c := by
  cases h : doc.lookup "inventory" with
  | none =>
      rw [Setting.overlays_of_absent (s := .mode) h, Setting.overlays_of_absent (s := .stateFile) h,
        Setting.overlays_of_absent (s := .intervalSecs) h,
        Setting.overlays_of_absent (s := .commandTimeoutSecs) h,
        Setting.overlays_of_absent (s := .root) h, Setting.overlays_of_absent (s := .yumSecurity) h,
        Setting.overlays_of_absent (s := .yumMinimal) h]
      have hdefaults : c.inventory = .standard ↔ c.inventory.mode = .standard ∧
          c.inventory.stateFile = InventoryConfig.defaultStateFile ∧
          c.inventory.intervalSecs = InventoryConfig.defaultIntervalSecs ∧
          c.inventory.commandTimeoutSecs = InventoryConfig.defaultCommandTimeoutSecs ∧
          c.inventory.root = InventoryConfig.defaultRoot ∧ c.inventory.yumSecurity = false ∧
          c.inventory.yumMinimal = false := by
        obtain ⟨agent, ⟨mode, stateFile, interval, timeout, root, security, minimal⟩, tasker⟩ := c
        simp [InventoryConfig.standard]
      exact hdefaults.trans (and_iff_right nofun).symm
  | some v =>
      obtain ⟨members, rfl⟩ := hsection v h
      rw [Setting.overlays_of_table (s := .mode) h, Setting.overlays_of_table (s := .stateFile) h,
        Setting.overlays_of_table (s := .intervalSecs) h,
        Setting.overlays_of_table (s := .commandTimeoutSecs) h,
        Setting.overlays_of_table (s := .root) h, Setting.overlays_of_table (s := .yumSecurity) h,
        Setting.overlays_of_table (s := .yumMinimal) h]
      simp only [Option.some.injEq, table.injEq, forall_eq']
      exact InventoryConfig.ofToml?_table_iff (names_of_lookup hdoc h)

theorem tasker_iff (hsection : IsSection doc "tasker") :
    Holds .standard (fun v t => TaskerConfig.ofToml? v = some t) (doc.lookup "tasker") c.tasker ↔
      (∀ members, doc.lookup "tasker" = some (.table members) →
        SkipsBounded ["reclaim_memory"] members) ∧ Setting.reclaimMemory.Overlays doc c := by
  cases h : doc.lookup "tasker" with
  | none =>
      rw [Setting.overlays_of_absent (s := .reclaimMemory) h]
      have hdefaults : c.tasker = .standard ↔ c.tasker.reclaimMemory = false := by
        obtain ⟨agent, inventory, ⟨reclaimMemory⟩⟩ := c
        simp [TaskerConfig.standard]
      exact hdefaults.trans (and_iff_right nofun).symm
  | some v =>
      obtain ⟨members, rfl⟩ := hsection v h
      rw [Setting.overlays_of_table (s := .reclaimMemory) h]
      simp only [Option.some.injEq, table.injEq, forall_eq']
      exact TaskerConfig.ofToml?_table_iff (names_of_lookup hdoc h)

/-- What is read from a document lies over the defaults. -/
theorem overlays_of_ofToml? (h : ofToml? (.table doc) = some c) (s : Setting)
    (hsection : IsSection doc s.sectionName) : s.Overlays doc c := by
  have hnames : (doc.map Prod.fst).Nodup := by
    cases hdoc with
    | table hnames _ => exact hnames
  obtain ⟨-, hagent, hinventory, htasker⟩ := (ofToml?_table_iff hnames).mp h
  cases s with
  | logLevel => exact ((agent_iff hdoc hsection).mp hagent).2.1
  | logFormat => exact ((agent_iff hdoc hsection).mp hagent).2.2
  | reclaimMemory => exact ((tasker_iff hdoc hsection).mp htasker).2
  | _ =>
      obtain ⟨-, hmode, hfile, hinterval, htimeout, hroot, hsecurity, hminimal⟩ :=
        (inventory_iff hdoc hsection).mp hinventory
      assumption

/-- What lies over the defaults is read, if the numbers under all other names can be kept. -/
theorem ofToml?_of_overlays (hsections : ∀ s : Setting, IsSection doc s.sectionName)
    (hbounded : (Toml.table doc).isBounded = true) (h : ∀ s : Setting, s.Overlays doc c) :
    ofToml? (.table doc) = some c := by
  have hnames : (doc.map Prod.fst).Nodup := by
    cases hdoc with
    | table hnames _ => exact hnames
  have hinner : ∀ sectionName members, doc.lookup sectionName = some (.table members) →
      ∀ names, SkipsBounded names members := by
    intro sectionName members hlookup
    rw [isBounded, membersBounded_iff] at hbounded
    exact skipsBounded_of_isBounded (hbounded _ (Fields.mem_of_lookup hlookup))
  refine (ofToml?_table_iff hnames).mpr ⟨skipsBounded_of_isBounded hbounded _, ?_, ?_, ?_⟩
  · exact (agent_iff hdoc (hsections .logLevel)).mpr
      ⟨fun members hm => hinner _ _ hm _, h .logLevel, h .logFormat⟩
  · exact (inventory_iff hdoc (hsections .mode)).mpr
      ⟨fun members hm => hinner _ _ hm _, h .mode, h .stateFile, h .intervalSecs,
        h .commandTimeoutSecs, h .root, h .yumSecurity, h .yumMinimal⟩
  · exact (tasker_iff hdoc (hsections .reclaimMemory)).mpr
      ⟨fun members hm => hinner _ _ hm _, h .reclaimMemory⟩

end

/-- A document whose values all mean something sets what it gives and leaves the rest at its
default, if every number in it, those under names that are no settings included, is one that can be
kept; one given value that means nothing makes it no configuration at all. -/
theorem overlays_defaults {text : String} {doc : List (String × Toml)}
    (hdoc : Toml.parse? text = some doc) :
    ((∀ s : Setting, IsSection doc s.sectionName) → (Toml.table doc).isBounded = true →
      (∀ (s : Setting) v, s.given? doc = some v → ∃ x, s.Means v x) →
        ∃ c, parse? text = some c ∧ ∀ s : Setting, s.Overlays doc c) ∧
    ∀ (s : Setting) v, s.given? doc = some v → (∀ x, ¬s.Means v x) → parse? text = none := by
  have hdistinct := Toml.distinct_of_parse? hdoc
  have hparse : parse? text = ofToml? (.table doc) := by
    rw [parse?, hdoc]
    rfl
  rw [hparse]
  constructor
  · intro hsections hbounded hmeans
    have hvalue : ∀ s : Setting, ∃ x, Holds (s.value standard) s.Means (s.given? doc) x := by
      intro s
      cases hgiven : s.given? doc with
      | none => exact ⟨s.value standard, rfl⟩
      | some v => exact hmeans s v hgiven
    obtain ⟨x, hx⟩ := Classical.axiomOfChoice hvalue
    let c : Config := {
      agent := ⟨x .logLevel, x .logFormat⟩
      inventory := ⟨x .mode, x .stateFile, x .intervalSecs, x .commandTimeoutSecs, x .root,
        x .yumSecurity, x .yumMinimal⟩
      tasker := ⟨x .reclaimMemory⟩ }
    have hc : ∀ s : Setting, s.value c = x s := fun s => by cases s <;> rfl
    have hoverlays : ∀ s : Setting, s.Overlays doc c := fun s => by
      rw [Setting.Overlays, hc]
      exact hx s
    exact ⟨c, ofToml?_of_overlays hdistinct hsections hbounded hoverlays, hoverlays⟩
  · intro s v hgiven hnothing
    cases h : ofToml? (.table doc) with
    | none => rfl
    | some c =>
        have hsection : IsSection doc s.sectionName := by
          intro v' hlookup
          rw [Setting.given?, hlookup] at hgiven
          split at hgiven
          · rename_i members heq
            exact ⟨members, Option.some.inj heq⟩
          · cases hgiven
        have hover := overlays_of_ofToml? hdistinct h s hsection
        rw [Setting.Overlays, hgiven] at hover
        exact absurd hover (hnothing _)

/-- A document that gives the mode alone, beside a name that is no setting and without a section
for the agent; and one whose mode is unknown. -/
theorem overlays_defaults_mode :
    (∃ doc, Toml.parse? "[tasker]\nspare = 'x'\n[inventory]\nmode = 'verify'\n" = some doc ∧
      Setting.mode.given? doc = some (.string "verify") ∧
      parse? "[tasker]\nspare = 'x'\n[inventory]\nmode = 'verify'\n" =
        some { standard with inventory := { InventoryConfig.standard with mode := .verify } }) ∧
    ∃ doc, Toml.parse? "[inventory]\nmode = 'sometimes'\n" = some doc ∧
      Setting.mode.given? doc = some (.string "sometimes") ∧
      parse? "[inventory]\nmode = 'sometimes'\n" = none := by
  constructor
  · -- The parser is run once, in a check of all that is asked of the document.
    have hrun : ((Toml.parse? "[tasker]\nspare = 'x'\n[inventory]\nmode = 'verify'\n").any
        fun doc => (doc.all fun m => m.2.isTable) && (Toml.table doc).isBounded &&
          (Setting.mode.given? doc).bind Toml.toText? == some "verify" &&
          [Setting.logLevel, .logFormat, .stateFile, .intervalSecs, .commandTimeoutSecs, .root,
            .yumSecurity, .yumMinimal, .reclaimMemory].all fun s => (s.given? doc).isNone) =
        true := by
      decide +kernel
    obtain ⟨doc, hdoc, hdocCheck⟩ := (Option.any_eq_true _ _).mp hrun
    simp only [Bool.and_eq_true, beq_iff_eq] at hdocCheck
    obtain ⟨⟨⟨htables, hbounded⟩, hmode⟩, hothers⟩ := hdocCheck
    obtain ⟨v, hv, htext⟩ := Option.bind_eq_some_iff.mp hmode
    obtain rfl := toText?_eq_some_iff.mp htext
    have hnone : ∀ s : Setting, s ≠ .mode → s.given? doc = none := by
      intro s hs
      refine Option.isNone_iff_eq_none.mp (List.all_eq_true.mp hothers s ?_)
      cases s <;> simp at hs ⊢
    have hmeans : ∀ (s : Setting) v, s.given? doc = some v → ∃ x, s.Means v x := by
      intro s v hgiven
      by_cases hs : s = .mode
      · subst hs
        rw [hv] at hgiven
        cases hgiven
        exact ⟨ExtractionMode.verify, .inl rfl⟩
      · rw [hnone s hs] at hgiven
        cases hgiven
    obtain ⟨c, hc, hover⟩ := (overlays_defaults hdoc).1
      (fun s => isSection_of_tables htables s.sectionName) hbounded hmeans
    refine ⟨doc, hdoc, hv, hc.trans (congrArg some (eq_of_value fun s => ?_))⟩
    have hs := hover s
    by_cases hmode : s = .mode
    · subst hmode
      rw [Setting.Overlays, hv] at hs
      exact (Option.some.inj (ExtractionMode.ofToml?_eq_some_iff.mpr hs)).symm
    · rw [Setting.Overlays, hnone s hmode] at hs
      rw [show s.value c = s.value standard from hs]
      cases s <;> first | rfl | exact absurd rfl hmode
  · have hrun : ((Toml.parse? "[inventory]\nmode = 'sometimes'\n").any fun doc =>
        (Setting.mode.given? doc).bind Toml.toText? == some "sometimes") = true := by
      decide +kernel
    obtain ⟨doc, hdoc, hmode⟩ := (Option.any_eq_true _ _).mp hrun
    obtain ⟨v, hv, htext⟩ := Option.bind_eq_some_iff.mp (beq_iff_eq.mp hmode)
    obtain rfl := toText?_eq_some_iff.mp htext
    refine ⟨doc, hdoc, hv, (overlays_defaults hdoc).2 .mode (.string "sometimes") hv ?_⟩
    intro m hm
    cases ExtractionMode.ofToml?_eq_some_iff.mpr hm

end Config

end HostInventory
