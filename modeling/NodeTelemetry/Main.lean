/-
# Command line

Loads the settings and shows what the kernel says about the node. Whatever is decided
here is decided elsewhere; this module only reads and prints.
-/

import NodeTelemetry.Json.Writer
import NodeTelemetry.Kernel.Files
import NodeTelemetry.Inventory.Socket
import NodeTelemetry.Log.Notice
import NodeTelemetry.Relay.Endpoint
import NodeTelemetry.Settings.Load
import NodeTelemetry.Snapshot.Json

namespace NodeTelemetry.Main

open Settings

/-- The bytes of a file that can be read. -/
def bytesAt? (path : String) : IO (Option ByteArray) := do
  try return some (← IO.FS.readBinFile path) catch _ => return none

/-- The variables that have a meaning, as far as they are set. -/
def environment : IO Environment :=
  knownVariables.filterMapM fun name => do
    return (← IO.getEnv name).map fun value => (name, value)

/-- The settings files that there are, with their texts. -/
def settingsFiles (path : Option String) : IO (List (String × String)) :=
  ((path.map candidates).getD []).filterMapM fun name => do
    return ((← bytesAt? name).bind String.fromUTF8?).map fun text => (name, text)

/-- Load the settings of this machine. -/
def loadHere (arguments : List String) : IO (Except LoadFault NodeTelemetry.Settings) := do
  let environment ← environment
  let path := (GivenFlags.ofArguments arguments).bind (filePath environment)
  let files ← settingsFiles (path.toOption.bind id)
  return load .standard (fun name => (files.find? (·.1 == name)).map (·.2)) environment arguments

/-- The kernel files of this machine. -/
def kernelFiles : IO Kernel.Files := do
  let read (name : String) : IO (Option (List UInt8)) := do
    return (← bytesAt? ("/proc/" ++ name)).map fun bytes => bytes.data.toList
  return {
    diskstats := ← read "diskstats"
    cpuPressure := ← read "pressure/cpu"
    memoryPressure := ← read "pressure/memory"
    ioPressure := ← read "pressure/io" }

/-- Report a fault and choose an exit code for it. -/
def fail (message : String) (code : UInt32) : IO UInt32 := do
  IO.eprintln message
  return code

/-- Show the start of a program with settings, and the node it runs on. -/
def present (settings : NodeTelemetry.Settings) : IO UInt32 := do
  match Relay.Endpoint.ofAddress (settings.relayAddress.getD "") with
  | .error fault => fail fault.message 1
  | .ok endpoint =>
    let socket := settings.runtimeEndpoint.getD (Inventory.usualSockets.headD "")
    let notice := Log.Notice.started "0.1.0" endpoint.text socket
    IO.println (notice.toJson settings.nodeName).render
    let some _ := settings.capacity? | fail "attempt to multiply with overflow" 101
    IO.println (Kernel.nodeOf (← kernelFiles)).toJson.render
    return 0

end NodeTelemetry.Main

open NodeTelemetry in
def main (arguments : List String) : IO UInt32 := do
  match ← Main.loadHere arguments with
  | .ok settings => Main.present settings
  | .error (.arguments fault) =>
    if fault.isAnswer then
      IO.println fault.message
      return 0
    else Main.fail fault.message 2
  | .error fault => Main.fail fault.message 1
