/-
# Messages of the container runtime

The part of the container runtime interface that is queried: the pod sandboxes and
containers of the node, their usage statistics, and the requests for the four lists.
Counters come in a message of their own, so that a counter that is not measured
differs from one that is zero. The runtime's own messages have further fields, which
are skipped when they are read.
-/

import NodeTelemetry.Protobuf.Schema

namespace NodeTelemetry.Inventory.Messages

open Protobuf

/-- A counter; its presence says that it was measured. -/
def wrappedCounter : Schema :=
  .field 1 "value" (.plain .uint64) <|
  .done

/-- The state that listed sandboxes have to have. -/
def podSandboxStateValue : Schema :=
  .field 1 "state" (.plain .enumeration) <|
  .done

/-- Which sandboxes to list. -/
def podSandboxFilter : Schema :=
  .field 1 "id" (.plain .text) <|
  .field 2 "state" (.one podSandboxStateValue) <|
  .done

def listPodSandboxRequest : Schema :=
  .field 1 "filter" (.one podSandboxFilter) <|
  .done

/-- How the orchestrator names a pod. -/
def podSandboxMetadata : Schema :=
  .field 1 "name" (.plain .text) <|
  .field 2 "uid" (.plain .text) <|
  .field 3 "namespace" (.plain .text) <|
  .field 4 "attempt" (.plain .uint32) <|
  .done

/-- A pod sandbox as listed. -/
def podSandbox : Schema :=
  .field 1 "id" (.plain .text) <|
  .field 2 "metadata" (.one podSandboxMetadata) <|
  .field 3 "state" (.plain .enumeration) <|
  .field 4 "created_at" (.plain .int64) <|
  .done

def listPodSandboxResponse : Schema :=
  .field 1 "items" (.many podSandbox) <|
  .done

def podSandboxStatsFilter : Schema :=
  .field 1 "id" (.plain .text) <|
  .done

def listPodSandboxStatsRequest : Schema :=
  .field 1 "filter" (.one podSandboxStatsFilter) <|
  .done

/-- Whom sandbox statistics belong to. -/
def podSandboxAttributes : Schema :=
  .field 1 "id" (.plain .text) <|
  .field 2 "metadata" (.one podSandboxMetadata) <|
  .done

/-- Traffic of one interface. -/
def networkInterfaceUsage : Schema :=
  .field 1 "name" (.plain .text) <|
  .field 2 "rx_bytes" (.one wrappedCounter) <|
  .field 3 "rx_errors" (.one wrappedCounter) <|
  .field 4 "tx_bytes" (.one wrappedCounter) <|
  .field 5 "tx_errors" (.one wrappedCounter) <|
  .done

/-- Traffic of a sandbox. -/
def networkUsage : Schema :=
  .field 1 "timestamp" (.plain .int64) <|
  .field 2 "default_interface" (.one networkInterfaceUsage) <|
  .field 3 "interfaces" (.many networkInterfaceUsage) <|
  .done

/-- Processes in a sandbox. -/
def processUsage : Schema :=
  .field 1 "timestamp" (.plain .int64) <|
  .field 2 "process_count" (.one wrappedCounter) <|
  .done

/-- Processor time. -/
def cpuUsage : Schema :=
  .field 1 "timestamp" (.plain .int64) <|
  .field 2 "usage_core_nano_seconds" (.one wrappedCounter) <|
  .field 3 "usage_nano_cores" (.one wrappedCounter) <|
  .done

/-- Memory in bytes, and page faults. -/
def memoryUsage : Schema :=
  .field 1 "timestamp" (.plain .int64) <|
  .field 2 "working_set_bytes" (.one wrappedCounter) <|
  .field 3 "available_bytes" (.one wrappedCounter) <|
  .field 4 "usage_bytes" (.one wrappedCounter) <|
  .field 5 "rss_bytes" (.one wrappedCounter) <|
  .field 6 "page_faults" (.one wrappedCounter) <|
  .field 7 "major_page_faults" (.one wrappedCounter) <|
  .done

/-- Usage of a sandbox on Linux. -/
def linuxPodSandboxStats : Schema :=
  .field 1 "cpu" (.one cpuUsage) <|
  .field 2 "memory" (.one memoryUsage) <|
  .field 3 "network" (.one networkUsage) <|
  .field 4 "process" (.one processUsage) <|
  .done

/-- Usage of one sandbox. -/
def podSandboxStats : Schema :=
  .field 1 "attributes" (.one podSandboxAttributes) <|
  .field 2 "linux" (.one linuxPodSandboxStats) <|
  .done

def listPodSandboxStatsResponse : Schema :=
  .field 1 "stats" (.many podSandboxStats) <|
  .done

/-- The state that listed containers have to have. -/
def containerStateValue : Schema :=
  .field 1 "state" (.plain .enumeration) <|
  .done

/-- Which containers to list. -/
def containerFilter : Schema :=
  .field 1 "id" (.plain .text) <|
  .field 2 "state" (.one containerStateValue) <|
  .field 3 "pod_sandbox_id" (.plain .text) <|
  .done

def listContainersRequest : Schema :=
  .field 1 "filter" (.one containerFilter) <|
  .done

/-- How the orchestrator names a container. -/
def containerMetadata : Schema :=
  .field 1 "name" (.plain .text) <|
  .field 2 "attempt" (.plain .uint32) <|
  .done

/-- The image as it was asked for. -/
def imageSpec : Schema :=
  .field 1 "image" (.plain .text) <|
  .done

/-- A container as listed. -/
def container : Schema :=
  .field 1 "id" (.plain .text) <|
  .field 2 "pod_sandbox_id" (.plain .text) <|
  .field 3 "metadata" (.one containerMetadata) <|
  .field 4 "image" (.one imageSpec) <|
  .field 5 "image_ref" (.plain .text) <|
  .field 6 "state" (.plain .enumeration) <|
  .field 7 "created_at" (.plain .int64) <|
  .done

def listContainersResponse : Schema :=
  .field 1 "containers" (.many container) <|
  .done

def containerStatsFilter : Schema :=
  .field 1 "id" (.plain .text) <|
  .field 2 "pod_sandbox_id" (.plain .text) <|
  .done

def listContainerStatsRequest : Schema :=
  .field 1 "filter" (.one containerStatsFilter) <|
  .done

/-- Whom container statistics belong to. -/
def containerAttributes : Schema :=
  .field 1 "id" (.plain .text) <|
  .field 2 "metadata" (.one containerMetadata) <|
  .done

/-- Where a filesystem is mounted. -/
def filesystemIdentifier : Schema :=
  .field 1 "mountpoint" (.plain .text) <|
  .done

/-- Use of a filesystem. -/
def filesystemUsage : Schema :=
  .field 1 "timestamp" (.plain .int64) <|
  .field 2 "fs_id" (.one filesystemIdentifier) <|
  .field 3 "used_bytes" (.one wrappedCounter) <|
  .field 4 "inodes_used" (.one wrappedCounter) <|
  .done

/-- Swap space in bytes. -/
def swapUsage : Schema :=
  .field 1 "timestamp" (.plain .int64) <|
  .field 2 "swap_available_bytes" (.one wrappedCounter) <|
  .field 3 "swap_usage_bytes" (.one wrappedCounter) <|
  .done

/-- Usage of one container. -/
def containerStats : Schema :=
  .field 1 "attributes" (.one containerAttributes) <|
  .field 2 "cpu" (.one cpuUsage) <|
  .field 3 "memory" (.one memoryUsage) <|
  .field 4 "writable_layer" (.one filesystemUsage) <|
  .field 5 "swap" (.one swapUsage) <|
  .done

def listContainerStatsResponse : Schema :=
  .field 1 "stats" (.many containerStats) <|
  .done

/-- The messages by name. -/
def messages : List (String × Schema) :=
  [("Container", container),
   ("ContainerAttributes", containerAttributes),
   ("ContainerFilter", containerFilter),
   ("ContainerMetadata", containerMetadata),
   ("ContainerStateValue", containerStateValue),
   ("ContainerStats", containerStats),
   ("ContainerStatsFilter", containerStatsFilter),
   ("CpuUsage", cpuUsage),
   ("FilesystemIdentifier", filesystemIdentifier),
   ("FilesystemUsage", filesystemUsage),
   ("ImageSpec", imageSpec),
   ("LinuxPodSandboxStats", linuxPodSandboxStats),
   ("ListContainerStatsRequest", listContainerStatsRequest),
   ("ListContainerStatsResponse", listContainerStatsResponse),
   ("ListContainersRequest", listContainersRequest),
   ("ListContainersResponse", listContainersResponse),
   ("ListPodSandboxRequest", listPodSandboxRequest),
   ("ListPodSandboxResponse", listPodSandboxResponse),
   ("ListPodSandboxStatsRequest", listPodSandboxStatsRequest),
   ("ListPodSandboxStatsResponse", listPodSandboxStatsResponse),
   ("MemoryUsage", memoryUsage),
   ("NetworkInterfaceUsage", networkInterfaceUsage),
   ("NetworkUsage", networkUsage),
   ("PodSandbox", podSandbox),
   ("PodSandboxAttributes", podSandboxAttributes),
   ("PodSandboxFilter", podSandboxFilter),
   ("PodSandboxMetadata", podSandboxMetadata),
   ("PodSandboxStateValue", podSandboxStateValue),
   ("PodSandboxStats", podSandboxStats),
   ("PodSandboxStatsFilter", podSandboxStatsFilter),
   ("ProcessUsage", processUsage),
   ("SwapUsage", swapUsage),
   ("UInt64Value", wrappedCounter)]

/-- The cases of the enumerations, by name. -/
def enumerations : List (String × List (Int32 × String)) :=
  [("PodSandboxState", [(0, "SandboxReady"), (1, "SandboxNotready")]),
   ("ContainerState",
     [(0, "ContainerCreated"), (1, "ContainerRunning"), (2, "ContainerExited"),
       (3, "ContainerUnknown")])]

end NodeTelemetry.Inventory.Messages
