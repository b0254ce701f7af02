/-
# The workload part of a snapshot

Pod sandboxes with the containers that run in them. A facet of usage is absent when
the container runtime did not report it, and so is each counter inside a facet; an
absent counter is never zero.
-/

namespace NodeTelemetry

/-- State of a sandbox as the runtime reports it. -/
inductive SandboxState where
  | ready
  | notReady
  | unknown
  deriving DecidableEq, Repr

def SandboxState.name : SandboxState → String
  | .ready => "ready"
  | .notReady => "not_ready"
  | .unknown => "unknown"

def SandboxState.ofName? : String → Option SandboxState
  | "ready" => some .ready
  | "not_ready" => some .notReady
  | "unknown" => some .unknown
  | _ => none

/-- State of a container as the runtime reports it. -/
inductive UnitState where
  | created
  | running
  | exited
  | unknown
  deriving DecidableEq, Repr

def UnitState.name : UnitState → String
  | .created => "created"
  | .running => "running"
  | .exited => "exited"
  | .unknown => "unknown"

def UnitState.ofName? : String → Option UnitState
  | "created" => some .created
  | "running" => some .running
  | "exited" => some .exited
  | "unknown" => some .unknown
  | _ => none

/-- Processor time, taken at `timestamp`. -/
structure CpuUsage where
  timestamp : Int64
  usageCoreNanoSeconds : Option UInt64
  usageNanoCores : Option UInt64
  deriving DecidableEq

/-- Memory in bytes, and page faults. -/
structure MemoryUsage where
  timestamp : Int64
  workingSetBytes : Option UInt64
  availableBytes : Option UInt64
  usageBytes : Option UInt64
  rssBytes : Option UInt64
  pageFaults : Option UInt64
  majorPageFaults : Option UInt64
  deriving DecidableEq

/-- Use of a container's writable layer. -/
structure FilesystemUsage where
  timestamp : Int64
  mountpoint : Option String
  usedBytes : Option UInt64
  inodesUsed : Option UInt64
  deriving DecidableEq

/-- Swap space in bytes. -/
structure SwapUsage where
  timestamp : Int64
  availableBytes : Option UInt64
  usageBytes : Option UInt64
  deriving DecidableEq

/-- Usage of a sandbox as a whole. -/
structure SandboxUsage where
  cpu : Option CpuUsage
  memory : Option MemoryUsage
  networkRxBytes : Option UInt64
  networkTxBytes : Option UInt64
  processCount : Option UInt64
  deriving DecidableEq

/-- One container; `createdAt` is in nanoseconds since the epoch. -/
structure UnitRecord where
  id : String
  name : String
  image : String
  createdAt : Int64
  state : UnitState
  attempt : UInt32
  cpu : Option CpuUsage
  memory : Option MemoryUsage
  filesystem : Option FilesystemUsage
  swap : Option SwapUsage
  deriving DecidableEq

/-- One sandbox and its containers; usage is absent when no statistics matched. -/
structure SandboxRecord where
  id : String
  uid : String
  name : String
  podNamespace : String
  createdAt : Int64
  state : SandboxState
  attempt : UInt32
  usage : Option SandboxUsage
  units : List UnitRecord
  deriving DecidableEq

end NodeTelemetry
