/-
# Flags

Every flag is long, takes one value and may be given once. The value follows as an
argument of its own or after an equals sign; only the second form allows a value that
begins with a hyphen. A value is checked when the next flag is reached or at the end,
and an argument that nothing is known about is reported even if the value before it
is wrong.
-/

import NodeTelemetry.Log.Rotation
import NodeTelemetry.Number.Literal
import NodeTelemetry.Settings.Tree

namespace NodeTelemetry.Settings

/-- What can be given. -/
inductive Flag where
  | config
  | relayAddress
  | mainLoopDuration
  | bufferRetention
  | topN
  | runtimeEndpoint
  | apiPort
  | nodeName
  | logLevel
  | logFile
  | logRotation
  | logMaxFiles
  deriving DecidableEq, Repr

/-- What the value of a flag may be. -/
inductive Domain where
  /-- Any text but the empty one. -/
  | path
  | text
  /-- An unsigned 64-bit number. -/
  | number
  /-- An unsigned 16-bit number. -/
  | port
  | choice (words : List String)
  deriving DecidableEq, Repr

/-- The words for when a log file is rolled over. -/
def rotationWords : List String := Rotation.all.map Rotation.name

namespace Flag

def all : List Flag :=
  [.config, .relayAddress, .mainLoopDuration, .bufferRetention, .topN, .runtimeEndpoint,
    .apiPort, .nodeName, .logLevel, .logFile, .logRotation, .logMaxFiles]

def name : Flag → String
  | .config => "config"
  | .relayAddress => "relay-address"
  | .mainLoopDuration => "main-loop-duration"
  | .bufferRetention => "buffer-retention"
  | .topN => "top-n"
  | .runtimeEndpoint => "runtime-endpoint"
  | .apiPort => "api-port"
  | .nodeName => "node-name"
  | .logLevel => "log-level"
  | .logFile => "log-file"
  | .logRotation => "log-rotation"
  | .logMaxFiles => "log-max-files"

def domain : Flag → Domain
  | .config => .path
  | .logFile => .path
  | .mainLoopDuration => .number
  | .bufferRetention => .number
  | .topN => .number
  | .logMaxFiles => .number
  | .apiPort => .port
  | .logRotation => .choice rotationWords
  | _ => .text

/-- The setting that a flag is for. The file to read settings from is none. -/
def setting? : Flag → Option String
  | .config => none
  | .relayAddress => some "relay_address"
  | .mainLoopDuration => some "main_loop_duration"
  | .bufferRetention => some "buffer_retention"
  | .topN => some "top_n"
  | .runtimeEndpoint => some "runtime_endpoint"
  | .apiPort => some "api_port"
  | .nodeName => some "node_name"
  | .logLevel => some "log.level"
  | .logFile => some "log.file"
  | .logRotation => some "log.rotation"
  | .logMaxFiles => some "log.max_files"

def ofName? (name : List Char) : Option Flag := all.find? fun flag => flag.name.toList == name

end Flag

/-- Why reading arguments ends early. -/
inductive ArgumentFault where
  | helpAsked
  | versionAsked
  | unknownArgument
  /-- A value is missing, empty, or not one of the words. -/
  | invalidValue
  /-- A value is no number, or no number in range. -/
  | badNumber
  | givenTwice
  /-- A value for something that takes none. -/
  | unexpectedValue
  deriving DecidableEq, Repr

def ArgumentFault.message : ArgumentFault → String
  | .helpAsked => "Usage: telemetry-agent" ++
      String.join (Flag.all.map fun flag => " [--" ++ flag.name ++ " <value>]")
  | .versionAsked => "telemetry-agent 0.1.0"
  | .unknownArgument => "unexpected argument"
  | .invalidValue => "invalid value"
  | .badNumber => "value is not a number in range"
  | .givenTwice => "argument cannot be used multiple times"
  | .unexpectedValue => "argument takes no value"

/-- Whether reading ends early because something was asked for, and not by mistake. -/
def ArgumentFault.isAnswer (fault : ArgumentFault) : Bool :=
  fault == .helpAsked || fault == .versionAsked

/-- The largest port. -/
def mostPort : Int := 65535

/-- The setting that the value of a flag stands for. -/
def Domain.read (domain : Domain) (value : String) : Except ArgumentFault Tree :=
  match domain with
  | .path => if value = "" then .error .invalidValue else .ok (.text value)
  | .text => .ok (.text value)
  | .number =>
    match Literal.readWhole Literal.mostUInt64 value.toList with
    | .ok n => .ok (.whole n)
    | .error _ => .error .badNumber
  | .port =>
    match Literal.readInt64? value.toList with
    | some n => if 0 ≤ n ∧ n ≤ mostPort then .ok (.whole n) else .error .badNumber
    | none => .error .badNumber
  | .choice words => if words.contains value then .ok (.text value) else .error .invalidValue

/-- Flags with their values, the latest first. -/
abbrev GivenFlags := List (Flag × Tree)

def GivenFlags.find? (given : GivenFlags) (flag : Flag) : Option Tree :=
  given.findSome? fun (other, tree) => if other = flag then some tree else none

/-- Flags read so far, and the one whose value has not been checked. -/
structure ArgumentState where
  given : GivenFlags := []
  pending : Option (Flag × Option String) := none
  /-- Whether only free arguments may follow. -/
  ended : Bool := false

namespace ArgumentState

/-- Take in the value of a flag. -/
def accept (flag : Flag) (value : Option String) (state : ArgumentState) :
    Except ArgumentFault ArgumentState :=
  match value with
  | none => .error .invalidValue
  | some value =>
    if (state.given.find? flag).isSome then .error .givenTwice
    else (flag.domain.read value).map fun tree =>
      { state with given := (flag, tree) :: state.given, pending := none }

/-- Check the value that has not been checked. -/
def settle (state : ArgumentState) : Except ArgumentFault ArgumentState :=
  match state.pending with
  | none => .ok state
  | some (flag, value) => state.accept flag value

/-- An argument that starts with two hyphens, without them. -/
def readLong (argument : List Char) (state : ArgumentState) :
    Except ArgumentFault ArgumentState :=
  let (name, value) := match Text.splitOnce '=' argument with
    | some (name, value) => (name, some (String.ofList value))
    | none => (argument, none)
  let asked (fault : ArgumentFault) : Except ArgumentFault ArgumentState :=
    if value.isSome then .error .unexpectedValue
    else do
      let _ ← state.settle
      .error fault
  if name = "help".toList then asked .helpAsked
  else if name = "version".toList then asked .versionAsked
  else match Flag.ofName? name with
    | none => .error .unknownArgument
    | some flag => do
      let settled ← state.settle
      match value with
      | some value => settled.accept flag (some value)
      | none => .ok { settled with pending := some (flag, none) }

/-- An argument that starts with one hyphen, without it. -/
def readShort (argument : List Char) (state : ArgumentState) :
    Except ArgumentFault ArgumentState :=
  match argument with
  | 'h' :: _ => do
    let _ ← state.settle
    .error .helpAsked
  | 'V' :: _ => do
    let _ ← state.settle
    .error .versionAsked
  | _ => .error .unknownArgument

/-- An argument that is the value of the flag before it, or unknown. -/
def readFree (argument : List Char) (state : ArgumentState) :
    Except ArgumentFault ArgumentState :=
  match state.pending with
  | some (flag, none) => .ok { state with pending := some (flag, some (String.ofList argument)) }
  | _ => .error .unknownArgument

/-- The next argument. -/
def read (argument : List Char) (state : ArgumentState) :
    Except ArgumentFault ArgumentState :=
  if state.ended then .error .unknownArgument
  else match argument with
    | ['-', '-'] => .ok { state with ended := true }
    | '-' :: '-' :: rest => state.readLong rest
    | ['-'] => state.readFree argument
    | '-' :: rest => state.readShort rest
    | _ => state.readFree argument

end ArgumentState

/-- Read arguments. -/
def GivenFlags.ofArguments (arguments : List String) : Except ArgumentFault GivenFlags := do
  let start : ArgumentState := {}
  let state ← arguments.foldlM (fun state argument => state.read argument.toList) start
  let settled ← state.settle
  return settled.given

/-- The layer of settings in flags. -/
def GivenFlags.layer (given : GivenFlags) : Tree.Members :=
  Flag.all.filterMap fun flag => do return (← flag.setting?, ← given.find? flag)

end NodeTelemetry.Settings
