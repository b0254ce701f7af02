/-
# Settings

What the program can be told, with the values that hold if it is not told, and the
conditions under which settings are accepted. The first condition that is violated is
the one that is reported.
-/

import NodeTelemetry.Backlog.Sizing
import NodeTelemetry.Settings.Flags
import NodeTelemetry.Settings.Reading
import NodeTelemetry.Text.Blank
import NodeTelemetry.Text.Quoted

namespace NodeTelemetry

/-- Settings of the log. -/
structure LogSettings where
  level : String := "info"
  /-- A file to write the log to as well. -/
  file : Option String := none
  rotation : Rotation := .daily
  /-- How many rolled files are kept. -/
  maxFiles : UInt64 := 5
  deriving DecidableEq

structure Settings where
  nodeName : String
  apiPort : UInt16 := 8080
  /-- Where snapshots are delivered to; it has to be set. -/
  relayAddress : Option String := none
  /-- Seconds between the beginnings of collections. -/
  mainLoopDuration : UInt64 := 5
  /-- Minutes for which snapshots are kept while the relay cannot be reached. -/
  bufferRetention : UInt64 := 10
  /-- How many processes the node record names. -/
  topN : UInt64 := 10
  /-- The socket of the container runtime; it is looked for if it is not set. -/
  runtimeEndpoint : Option String := none
  /-- Seconds for which a collection waits for its sources. -/
  sourceTimeout : Option UInt64 := none
  /-- Whether sandboxes in all states are collected. -/
  allSandboxes : Bool := false
  log : LogSettings := {}
  deriving DecidableEq

/-- Why settings are not accepted. -/
inductive SettingsFault where
  /-- The file cannot be read or is not well formed. -/
  | unreadable
  /-- A value is not of the kind that its setting asks for. -/
  | invalid
  | relayMissing
  | zeroInterval
  | badLogLevel (level : String)
  | zeroLogFiles
  deriving DecidableEq, Repr

def SettingsFault.message : SettingsFault → String
  | .unreadable => "Failed to read configuration"
  | .invalid => "Invalid configuration"
  | .relayMissing => "A relay address is required (--relay-address or AGENT_RELAY_ADDRESS)"
  | .zeroInterval => "main_loop_duration must be at least one second"
  | .badLogLevel level => "Invalid log level " ++ Text.quoted level
  | .zeroLogFiles => "log max_files must be at least 1 when a log file is set"

namespace Settings

/-- How long after each other collections begin. -/
def interval (settings : Settings) : Duration := .ofSeconds settings.mainLoopDuration.toNat

/-- Seconds for which snapshots are kept, if a 64-bit word can hold so many. -/
def retentionSeconds? (settings : Settings) : Option UInt64 :=
  let seconds := settings.bufferRetention.toNat * 60
  if seconds ≤ Literal.mostUInt64 then some (.ofNat seconds) else none

/-- How long snapshots are kept while the relay cannot be reached. Asking for this ends the
program if the minutes are more seconds than a 64-bit word can hold. -/
def retention? (settings : Settings) : Option Duration :=
  settings.retentionSeconds?.map fun seconds => .ofSeconds seconds.toNat

/-- How many snapshots the backlog has room for, unless the program ends before. -/
def capacity? (settings : Settings) : Option Nat :=
  settings.retention?.map fun retention => capacityFor retention settings.interval

/-- How long a collection waits for its sources: as long as collections are apart, unless
set. -/
def sourceLimit (settings : Settings) : Duration :=
  match settings.sourceTimeout with
  | some seconds => .ofSeconds seconds.toNat
  | none => settings.interval

/-- Whether a relay address is set that is not blank. -/
def hasRelay (settings : Settings) : Bool :=
  match settings.relayAddress with
  | none => false
  | some address => !(Text.trim address.toList).isEmpty

/-- The settings, if they are accepted; `isFilter` says which texts are log filters. -/
def check (isFilter : String → Bool) (settings : Settings) : Except SettingsFault Settings :=
  if !settings.hasRelay then .error .relayMissing
  else if settings.mainLoopDuration = 0 then .error .zeroInterval
  else if !isFilter settings.log.level then .error (.badLogLevel settings.log.level)
  else if settings.log.file.isSome && settings.log.maxFiles = 0 then .error .zeroLogFiles
  else .ok settings

/-! ## From trees -/

/-- A number as a 64-bit word. -/
def word64? (tree : Tree) : Option UInt64 :=
  (tree.number? Literal.mostUInt64).map fun n => UInt64.ofNat n

/-- A number as a port. -/
def port? (tree : Tree) : Option UInt16 :=
  (tree.number? mostPort.toNat).map fun n => UInt16.ofNat n

def rotation? (tree : Tree) : Option Rotation :=
  (tree.word? rotationWords).bind Rotation.ofName?

/-- Settings of the log: a table, or a list of the values in this order. -/
def log? (tree : Tree) : Option LogSettings := do
  let standard : LogSettings := {}
  let [level, file, rotation, maxFiles] ←
    tree.slots? ["level", "file", "rotation", "max_files"] | none
  return {
    level := ← Tree.required? Tree.text? standard.level level
    file := ← Tree.optional? Tree.text? file
    rotation := ← Tree.required? rotation? standard.rotation rotation
    maxFiles := ← Tree.required? word64? standard.maxFiles maxFiles }

/-- The settings that a tree holds. Names that mean nothing are ignored. -/
def ofMembers? (nodeName : String) (members : Tree.Members) : Option Settings := do
  let standard : Settings := { nodeName }
  return {
    nodeName := ← Tree.required? Tree.text? standard.nodeName (members.find? "node_name")
    apiPort := ← Tree.required? port? standard.apiPort (members.find? "api_port")
    relayAddress := ← Tree.optional? Tree.text? (members.find? "relay_address")
    mainLoopDuration :=
      ← Tree.required? word64? standard.mainLoopDuration (members.find? "main_loop_duration")
    bufferRetention :=
      ← Tree.required? word64? standard.bufferRetention (members.find? "buffer_retention")
    topN := ← Tree.required? word64? standard.topN (members.find? "top_n")
    runtimeEndpoint := ← Tree.optional? Tree.text? (members.find? "runtime_endpoint")
    sourceTimeout := ← Tree.optional? word64? (members.find? "source_timeout")
    allSandboxes :=
      ← Tree.required? Tree.switch? standard.allSandboxes (members.find? "all_sandboxes")
    log := ← Tree.required? log? standard.log (members.find? "log") }

end Settings

end NodeTelemetry
