/-
# Keys of settings

A setting is known by its key: the path under which layers name it, the type of its
value, what it is if no layer names it, and how a tree is converted to its value. Reading
settings from a tree is the same as resolving every key on its own, and a tree yields
settings unless the value of some key cannot be converted.
-/

import NodeTelemetry.Proofs.Settings.Layers
import NodeTelemetry.Settings.Basic

namespace NodeTelemetry.Settings

/-- The settings, by what they are for. -/
inductive Key where
  | nodeName
  | apiPort
  | relayAddress
  | mainLoopDuration
  | bufferRetention
  | topN
  | runtimeEndpoint
  | sourceTimeout
  | allSandboxes
  | logLevel
  | logFile
  | logRotation
  | logMaxFiles
  deriving DecidableEq

namespace Key

def all : List Key :=
  [.nodeName, .apiPort, .relayAddress, .mainLoopDuration, .bufferRetention, .topN,
    .runtimeEndpoint, .sourceTimeout, .allSandboxes, .logLevel, .logFile, .logRotation,
    .logMaxFiles]

theorem mem_all (key : Key) : key ∈ all := by
  cases key <;> decide

/-- The names that lead to a setting. -/
def path : Key → List String
  | .nodeName => ["node_name"]
  | .apiPort => ["api_port"]
  | .relayAddress => ["relay_address"]
  | .mainLoopDuration => ["main_loop_duration"]
  | .bufferRetention => ["buffer_retention"]
  | .topN => ["top_n"]
  | .runtimeEndpoint => ["runtime_endpoint"]
  | .sourceTimeout => ["source_timeout"]
  | .allSandboxes => ["all_sandboxes"]
  | .logLevel => ["log", "level"]
  | .logFile => ["log", "file"]
  | .logRotation => ["log", "rotation"]
  | .logMaxFiles => ["log", "max_files"]

/-- What kind of value a setting has. -/
abbrev Kind : Key → Type
  | .nodeName => String
  | .apiPort => UInt16
  | .relayAddress => Option String
  | .mainLoopDuration => UInt64
  | .bufferRetention => UInt64
  | .topN => UInt64
  | .runtimeEndpoint => Option String
  | .sourceTimeout => Option UInt64
  | .allSandboxes => Bool
  | .logLevel => String
  | .logFile => Option String
  | .logRotation => Rotation
  | .logMaxFiles => UInt64

/-- The value of a setting. -/
def get (settings : NodeTelemetry.Settings) : (key : Key) → key.Kind
  | .nodeName => settings.nodeName
  | .apiPort => settings.apiPort
  | .relayAddress => settings.relayAddress
  | .mainLoopDuration => settings.mainLoopDuration
  | .bufferRetention => settings.bufferRetention
  | .topN => settings.topN
  | .runtimeEndpoint => settings.runtimeEndpoint
  | .sourceTimeout => settings.sourceTimeout
  | .allSandboxes => settings.allSandboxes
  | .logLevel => settings.log.level
  | .logFile => settings.log.file
  | .logRotation => settings.log.rotation
  | .logMaxFiles => settings.log.maxFiles

/-- The value of a setting that no layer names. -/
def standard (nodeName : String) : (key : Key) → key.Kind
  | .nodeName => nodeName
  | .apiPort => 8080
  | .relayAddress => none
  | .mainLoopDuration => 5
  | .bufferRetention => 10
  | .topN => 10
  | .runtimeEndpoint => none
  | .sourceTimeout => none
  | .allSandboxes => false
  | .logLevel => "info"
  | .logFile => none
  | .logRotation => .daily
  | .logMaxFiles => 5

/-- The value for which a tree stands in an optional setting. -/
def orNull {α : Type} (read : Tree → Option α) : Tree → Option (Option α)
  | .null => some none
  | tree => (read tree).map some

/-- The value for which a tree stands in a setting, if it stands for one. -/
def convert : (key : Key) → Tree → Option key.Kind
  | .nodeName => Tree.text?
  | .apiPort => port?
  | .relayAddress => orNull Tree.text?
  | .mainLoopDuration => word64?
  | .bufferRetention => word64?
  | .topN => word64?
  | .runtimeEndpoint => orNull Tree.text?
  | .sourceTimeout => orNull word64?
  | .allSandboxes => Tree.switch?
  | .logLevel => Tree.text?
  | .logFile => orNull Tree.text?
  | .logRotation => rotation?
  | .logMaxFiles => word64?

/-- The value of a setting about which this was said, if anything was. -/
def resolve (nodeName : String) (key : Key) (said : Option Tree) : Option key.Kind :=
  said.elim (some (key.standard nodeName)) key.convert

end Key

/-- The settings with given values. -/
def ofValues (value : (key : Key) → key.Kind) : NodeTelemetry.Settings where
  nodeName := value .nodeName
  apiPort := value .apiPort
  relayAddress := value .relayAddress
  mainLoopDuration := value .mainLoopDuration
  bufferRetention := value .bufferRetention
  topN := value .topN
  runtimeEndpoint := value .runtimeEndpoint
  sourceTimeout := value .sourceTimeout
  allSandboxes := value .allSandboxes
  log := {
    level := value .logLevel
    file := value .logFile
    rotation := value .logRotation
    maxFiles := value .logMaxFiles }

theorem get_ofValues (value : (key : Key) → key.Kind) (key : Key) :
    key.get (ofValues value) = value key := by
  cases key <;> rfl

/-! ## Reading key by key -/

theorem required?_eq_elim {α : Type} (read : Tree → Option α) (standard : α)
    (said : Option Tree) :
    Tree.required? read standard said = said.elim (some standard) read := by
  cases said <;> rfl

theorem optional?_eq_elim {α : Type} (read : Tree → Option α) (said : Option Tree) :
    Tree.optional? read said = said.elim (some none) (Key.orNull read) := by
  cases said with
  | none => rfl
  | some tree => cases tree <;> rfl

variable {nodeName : String} {members : Tree.Members}

/-- Settings of the log are read key by key from a table. -/
theorem log?_table_eq_some_iff {inner : Tree.Members} {log : LogSettings} :
    log? (.table inner) = some log ↔
      Key.resolve nodeName .logLevel (inner.find? "level") = some log.level ∧
      Key.resolve nodeName .logFile (inner.find? "file") = some log.file ∧
      Key.resolve nodeName .logRotation (inner.find? "rotation") = some log.rotation ∧
      Key.resolve nodeName .logMaxFiles (inner.find? "max_files") = some log.maxFiles := by
  simp only [log?, Tree.slots?, List.map_cons, List.map_nil, required?_eq_elim,
    optional?_eq_elim, Option.bind_eq_bind, Option.bind_some, Option.bind_eq_some_iff,
    Option.pure_def, Option.some_inj]
  constructor
  · rintro ⟨level, hlevel, file, hfile, rotation, hrotation, maxFiles, hmaxFiles, rfl⟩
    exact ⟨hlevel, hfile, hrotation, hmaxFiles⟩
  · rintro ⟨hlevel, hfile, hrotation, hmaxFiles⟩
    exact ⟨_, hlevel, _, hfile, _, hrotation, _, hmaxFiles, rfl⟩

/-- The table of the log need not be there. -/
theorem log?_eq_some_iff (tabled : Tree.Tabled "log" members) {log : LogSettings} :
    (members.find? "log").elim (some {}) log? = some log ↔
      Key.resolve nodeName .logLevel (Tree.look ["log", "level"] members) = some log.level ∧
      Key.resolve nodeName .logFile (Tree.look ["log", "file"] members) = some log.file ∧
      Key.resolve nodeName .logRotation (Tree.look ["log", "rotation"] members) =
        some log.rotation ∧
      Key.resolve nodeName .logMaxFiles (Tree.look ["log", "max_files"] members) =
        some log.maxFiles := by
  have through : ∀ name : String, Tree.look ["log", name] members =
      (members.find? "log").bind fun tree => tree.members.find? name := fun _ => rfl
  simp only [through]
  cases held : members.find? "log" with
  | none =>
      obtain ⟨level, file, rotation, maxFiles⟩ := log
      simp [Key.resolve, Key.standard]
  | some tree =>
      obtain ⟨inner, rfl⟩ := tabled tree held
      exact log?_table_eq_some_iff

/-- A tree holds those settings to which all keys resolve. -/
theorem ofMembers?_eq_some_iff (tabled : Tree.Tabled "log" members)
    {settings : NodeTelemetry.Settings} :
    ofMembers? nodeName members = some settings ↔
      ∀ key : Key,
        key.resolve nodeName (Tree.look key.path members) = some (key.get settings) := by
  simp only [ofMembers?, required?_eq_elim, optional?_eq_elim, Option.bind_eq_bind,
    Option.bind_eq_some_iff, Option.pure_def, Option.some_inj]
  constructor
  · rintro ⟨_, hnodeName, _, hapiPort, _, hrelayAddress, _, hmainLoopDuration, _,
      hbufferRetention, _, htopN, _, hruntimeEndpoint, _, hsourceTimeout, _, hallSandboxes, log,
      hlog, rfl⟩ key
    obtain ⟨hlevel, hfile, hrotation, hmaxFiles⟩ := (log?_eq_some_iff tabled).mp hlog
    cases key <;> assumption
  · intro resolved
    exact ⟨_, resolved .nodeName, _, resolved .apiPort, _, resolved .relayAddress,
      _, resolved .mainLoopDuration, _, resolved .bufferRetention, _, resolved .topN,
      _, resolved .runtimeEndpoint, _, resolved .sourceTimeout, _, resolved .allSandboxes,
      _, (log?_eq_some_iff tabled).mpr ⟨resolved .logLevel, resolved .logFile,
        resolved .logRotation, resolved .logMaxFiles⟩, rfl⟩

/-- A tree holds settings unless the value of some key cannot be converted. -/
theorem ofMembers?_eq_none_iff (tabled : Tree.Tabled "log" members) :
    ofMembers? nodeName members = none ↔
      ∃ key : Key, key.resolve nodeName (Tree.look key.path members) = none := by
  constructor
  · intro unread
    refine Classical.byContradiction fun resolved => ?_
    have known : ∀ key : Key, (key.resolve nodeName (Tree.look key.path members)).isSome := by
      intro key
      rw [Option.isSome_iff_ne_none]
      exact fun unresolved => resolved ⟨key, unresolved⟩
    have read : ofMembers? nodeName members =
        some (ofValues fun key => Option.get _ (known key)) := by
      rw [ofMembers?_eq_some_iff tabled]
      intro key
      rw [get_ofValues, Option.some_get]
    rw [unread] at read
    cases read
  · rintro ⟨key, unresolved⟩
    rw [Option.eq_none_iff_forall_ne_some]
    intro settings read
    have resolved := (ofMembers?_eq_some_iff tabled).mp read key
    rw [unresolved] at resolved
    cases resolved

end NodeTelemetry.Settings
