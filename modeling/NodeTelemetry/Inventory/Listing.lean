/-
# Listings of the container runtime

The answers to the four queries, as far as the join needs them. Each listing is read
off the runtime's message. A counter that comes in a message of its own becomes a
value that may be absent; nothing is defaulted on the way.
-/

import NodeTelemetry.Inventory.Messages
import NodeTelemetry.Snapshot.Workload

namespace NodeTelemetry.Inventory

open Messages

/-- How a pod is named. -/
structure SandboxMetadata where
  name : String
  uid : String
  podNamespace : String
  attempt : UInt32
  deriving DecidableEq

/-- A sandbox as listed; the state is the runtime's number. -/
structure Sandbox where
  id : String
  metadata : Option SandboxMetadata
  state : Int32
  createdAt : Int64
  deriving DecidableEq

/-- How a container is named. -/
structure ContainerMetadata where
  name : String
  attempt : UInt32
  deriving DecidableEq

/-- A container as listed; the state is the runtime's number. -/
structure Container where
  id : String
  sandboxId : String
  metadata : Option ContainerMetadata
  /-- The image as it was asked for. -/
  image : Option String
  /-- The image that runs. -/
  imageRef : String
  state : Int32
  createdAt : Int64
  deriving DecidableEq

/-- Use of the writable layer; the mountpoint may be an empty text. -/
structure WritableLayer where
  timestamp : Int64
  mountpoint : Option String
  usedBytes : Option UInt64
  inodesUsed : Option UInt64
  deriving DecidableEq

/-- Usage of a container, for the container with the id `owner`. -/
structure ContainerStats where
  owner : Option String
  cpu : Option CpuUsage
  memory : Option MemoryUsage
  writableLayer : Option WritableLayer
  swap : Option SwapUsage
  deriving DecidableEq

/-- Traffic of the default interface. -/
structure InterfaceTraffic where
  rxBytes : Option UInt64
  txBytes : Option UInt64
  deriving DecidableEq

/-- Usage of a sandbox on Linux. -/
structure LinuxStats where
  cpu : Option CpuUsage
  memory : Option MemoryUsage
  defaultInterface : Option InterfaceTraffic
  processCount : Option UInt64
  deriving DecidableEq

/-- Usage of a sandbox, for the sandbox with the id `owner`. -/
structure SandboxStats where
  owner : Option String
  linux : Option LinuxStats
  deriving DecidableEq

/-! ## Reading listings off messages -/

def counterOf : wrappedCounter.Record → UInt64
  | (value, ()) => value

def sandboxMetadataOf : podSandboxMetadata.Record → SandboxMetadata
  | (name, uid, podNamespace, attempt, ()) => { name, uid, podNamespace, attempt }

def sandboxOf : podSandbox.Record → Sandbox
  | (id, metadata, state, createdAt, ()) =>
    { id, metadata := metadata.map sandboxMetadataOf, state, createdAt }

def containerMetadataOf : containerMetadata.Record → ContainerMetadata
  | (name, attempt, ()) => { name, attempt }

def containerOf : container.Record → Container
  | (id, sandboxId, metadata, image, imageRef, state, createdAt, ()) =>
    { id, sandboxId, metadata := metadata.map containerMetadataOf, image := image.map (·.1),
      imageRef, state, createdAt }

def cpuUsageOf : cpuUsage.Record → CpuUsage
  | (timestamp, usageCoreNanoSeconds, usageNanoCores, ()) =>
    { timestamp, usageCoreNanoSeconds := usageCoreNanoSeconds.map counterOf,
      usageNanoCores := usageNanoCores.map counterOf }

def memoryUsageOf : memoryUsage.Record → MemoryUsage
  | (timestamp, workingSetBytes, availableBytes, usageBytes, rssBytes, pageFaults,
      majorPageFaults, ()) =>
    { timestamp
      workingSetBytes := workingSetBytes.map counterOf
      availableBytes := availableBytes.map counterOf
      usageBytes := usageBytes.map counterOf
      rssBytes := rssBytes.map counterOf
      pageFaults := pageFaults.map counterOf
      majorPageFaults := majorPageFaults.map counterOf }

def writableLayerOf : filesystemUsage.Record → WritableLayer
  | (timestamp, mountpoint, usedBytes, inodesUsed, ()) =>
    { timestamp, mountpoint := mountpoint.map (·.1), usedBytes := usedBytes.map counterOf,
      inodesUsed := inodesUsed.map counterOf }

def swapUsageOf : swapUsage.Record → SwapUsage
  | (timestamp, availableBytes, usageBytes, ()) =>
    { timestamp, availableBytes := availableBytes.map counterOf,
      usageBytes := usageBytes.map counterOf }

def containerStatsOf : containerStats.Record → ContainerStats
  | (attributes, cpu, memory, writableLayer, swap, ()) =>
    { owner := attributes.map (·.1)
      cpu := cpu.map cpuUsageOf
      memory := memory.map memoryUsageOf
      writableLayer := writableLayer.map writableLayerOf
      swap := swap.map swapUsageOf }

def interfaceTrafficOf : networkInterfaceUsage.Record → InterfaceTraffic
  | (_, rxBytes, _, txBytes, _, ()) =>
    { rxBytes := rxBytes.map counterOf, txBytes := txBytes.map counterOf }

def defaultInterfaceOf : networkUsage.Record → Option InterfaceTraffic
  | (_, defaultInterface, _, ()) => defaultInterface.map interfaceTrafficOf

def processCountOf : processUsage.Record → Option UInt64
  | (_, processCount, ()) => processCount.map counterOf

def linuxStatsOf : linuxPodSandboxStats.Record → LinuxStats
  | (cpu, memory, network, process, ()) =>
    { cpu := cpu.map cpuUsageOf
      memory := memory.map memoryUsageOf
      defaultInterface := network.bind defaultInterfaceOf
      processCount := process.bind processCountOf }

def sandboxStatsOf : podSandboxStats.Record → SandboxStats
  | (attributes, linux, ()) =>
    { owner := attributes.map (·.1), linux := linux.map linuxStatsOf }

end NodeTelemetry.Inventory
