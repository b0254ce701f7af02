/-
# The kernel's files

What the node part of a snapshot takes from files of the kernel. A file that is missing,
that is no file, or that is no text contributes nothing, and so does a pressure file
that cannot be read.
-/

import NodeTelemetry.Kernel.Disks
import NodeTelemetry.Kernel.Pressure
import NodeTelemetry.Protobuf.Scalar

namespace NodeTelemetry.Kernel

/-- The bytes of the files, each `none` when there is no such file. -/
structure Files where
  diskstats : Option (List UInt8) := none
  cpuPressure : Option (List UInt8) := none
  memoryPressure : Option (List UInt8) := none
  ioPressure : Option (List UInt8) := none

/-- The text of a file. -/
def textOf? (file : Option (List UInt8)) : Option (List Char) :=
  file.bind fun bytes => (Protobuf.Scalar.ofUtf8? bytes).map String.toList

def pressureOf? (file : Option (List UInt8)) : Option PressureReading := do
  match readPressure (← textOf? file) with
  | .ok reading => some reading
  | .error _ => none

/-- Name of the operating system. -/
def operatingSystem : String := "linux"

/-- The node as far as the files tell. -/
def nodeOf (files : Files) : NodeRecord where
  host := { os := operatingSystem }
  diskTotals := (textOf? files.diskstats).map readDiskTotals
  pressure :=
    { cpu := pressureOf? files.cpuPressure
      memory := pressureOf? files.memoryPressure
      io := pressureOf? files.ioPressure }

end NodeTelemetry.Kernel
