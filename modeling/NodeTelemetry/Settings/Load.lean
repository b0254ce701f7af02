/-
# Loading settings

Settings come from a file, from the environment and from flags; what comes later
counts. The node is named by a variable of its own if it is named nowhere else.

How a settings file and a log filter are written is settled elsewhere: loading gets the
grammars as a parameter, and nothing is decided here by what they let through.
-/

import NodeTelemetry.Log.Filter
import NodeTelemetry.Settings.Basic
import NodeTelemetry.Settings.Environment
import NodeTelemetry.Settings.Files

namespace NodeTelemetry.Settings

/-- Why no settings could be loaded. -/
inductive LoadFault where
  | arguments (fault : ArgumentFault)
  | settings (fault : SettingsFault)
  deriving DecidableEq, Repr

def LoadFault.message : LoadFault → String
  | .arguments fault => fault.message
  | .settings fault => fault.message

/-- How texts are written that settings refer to. -/
structure Grammars where
  /-- Whether a text is a log filter. -/
  isFilter : String → Bool
  /-- The settings in a file of a format, if it is well formed. -/
  read? : Format → String → Option Tree.Members

/-- Filters without spans and fields, and files in TOML, in JSON and in a small part of
YAML. -/
def Grammars.standard : Grammars where
  isFilter text := (Log.Filter.ofText? text).isSome
  read? := Format.read?

/-- The variable that names the settings file, unless a flag does. -/
def fileVariable : String := "AGENT_CONFIG"

/-- The variable that names the node, unless a setting does. -/
def nodeVariable : String := "NODE_NAME"

/-- The name of a node that is named nowhere. -/
def unknownNode : String := "unknown"

/-- All variables that have a meaning. -/
def knownVariables : List String :=
  [fileVariable, nodeVariable] ++
    (Flag.all.filterMap Flag.setting? ++ ["source_timeout", "all_sandboxes"]).map
      Environment.variableOf

/-- The settings file, if one is named. -/
def filePath (environment : Environment) (given : GivenFlags) :
    Except ArgumentFault (Option String) :=
  match given.find? .config, environment.find? fileVariable with
  | some (.text path), _ => .ok (some path)
  | _, some path => (Flag.config.domain.read path).map fun _ => some path
  | _, none => .ok none

section

variable (grammars : Grammars) (look : String → Option String) (environment : Environment)

/-- All layers, the weakest first. -/
def layers? (given : GivenFlags) (path : Option String) : Option (List Tree.Members) :=
  let rest := [environment.layer, given.layer]
  match path with
  | none => some rest
  | some path => (fileLayer? grammars.read? look path).map fun file => file :: rest

/-- The settings in layers. -/
def ofLayers (layers : List Tree.Members) : Except SettingsFault Settings :=
  let members := layers.foldl (fun members layer => Tree.lay layer members) []
  match ofMembers? ((environment.find? nodeVariable).getD unknownNode) members with
  | none => .error .invalid
  | some settings => settings.check grammars.isFilter

/-- Load settings; `look` gives the text of a file, if it exists. -/
def load (arguments : List String) : Except LoadFault Settings := do
  let given ← (GivenFlags.ofArguments arguments).mapError .arguments
  let path ← (filePath environment given).mapError .arguments
  match layers? grammars look environment given path with
  | none => .error (.settings .unreadable)
  | some layers => (ofLayers grammars environment layers).mapError .settings

end

end NodeTelemetry.Settings
