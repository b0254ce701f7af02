/-
# The node part of a snapshot

What one collection says about the node itself: identity, processors, memory, disks,
network, pressure and the processes with the most memory. Counters are unsigned
64-bit words as the kernel keeps them. Block device counters and pressure are absent
when the kernel does not offer them.
-/

import NodeTelemetry.Number.Binary64

namespace NodeTelemetry

/-- Who the node is and what it runs. -/
structure HostInfo where
  hostname : String := ""
  uptimeSecs : UInt64 := 0
  bootTime : UInt64 := 0
  procs : UInt64 := 0
  os : String := ""
  platform : String := ""
  platformVersion : String := ""
  kernelVersion : String := ""
  kernelArch : String := ""
  hostId : String := ""
  deriving DecidableEq

/-- One processor core; usage is in percent. -/
structure CoreInfo where
  index : UInt32
  model : String
  vendorId : String
  mhz : UInt64
  usagePercent : Binary64
  deriving DecidableEq

/-- All cores together; usage is in percent. -/
structure CpuSummary where
  usagePercent : Binary64 := Binary64.zero
  physicalCores : Option UInt32 := none
  cores : List CoreInfo := []
  deriving DecidableEq

/-- Memory of the node in bytes. -/
structure MemoryInfo where
  total : UInt64 := 0
  available : UInt64 := 0
  used : UInt64 := 0
  free : UInt64 := 0
  usedPercent : Binary64 := Binary64.zero
  deriving DecidableEq

/-- Block device counters summed over the physical devices. -/
structure DiskTotals where
  readBytes : UInt64 := 0
  writeBytes : UInt64 := 0
  readOps : UInt64 := 0
  writeOps : UInt64 := 0
  deriving DecidableEq

/-- Use of one mounted filesystem, in bytes. -/
structure DiskUsage where
  device : String
  mountpoint : String
  fstype : String
  total : UInt64
  free : UInt64
  used : UInt64
  usedPercent : Binary64
  deriving DecidableEq

/-- Traffic summed over the interfaces. -/
structure NetTotals where
  bytesSent : UInt64 := 0
  bytesReceived : UInt64 := 0
  packetsSent : UInt64 := 0
  packetsReceived : UInt64 := 0
  errorsIn : UInt64 := 0
  errorsOut : UInt64 := 0
  deriving DecidableEq

/-- A network interface and its addresses. -/
structure InterfaceInfo where
  name : String
  hardwareAddr : String
  addrs : List String
  deriving DecidableEq

structure NetworkSummary where
  totals : NetTotals := {}
  interfaces : List InterfaceInfo := []
  deriving DecidableEq

/-- Shares of time in percent, over three windows, and the total in microseconds, in
which tasks waited for a resource. -/
structure PressureLine where
  avg10 : Binary64 := Binary64.zero
  avg60 : Binary64 := Binary64.zero
  avg300 : Binary64 := Binary64.zero
  total : UInt64 := 0
  deriving DecidableEq

/-- Pressure on one resource: at least one task waited, or all of them did. Older
kernels do not report the second for processors. -/
structure PressureReading where
  someLine : PressureLine := {}
  fullLine : Option PressureLine := none
  deriving DecidableEq

/-- Pressure by resource. -/
structure Pressure where
  cpu : Option PressureReading := none
  memory : Option PressureReading := none
  io : Option PressureReading := none
  deriving DecidableEq

/-- Resident memory of one process in bytes. -/
structure ProcessMemory where
  pid : UInt32
  name : String
  rss : UInt64
  deriving DecidableEq

/-- Everything a collection says about the node. -/
structure NodeRecord where
  host : HostInfo := {}
  cpu : CpuSummary := {}
  memory : MemoryInfo := {}
  diskTotals : Option DiskTotals := none
  disks : List DiskUsage := []
  network : NetworkSummary := {}
  pressure : Pressure := {}
  topMemory : List ProcessMemory := []
  deriving DecidableEq

end NodeTelemetry
