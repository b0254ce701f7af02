/-
# Messages to the relay

What is streamed to the relay: one `Metrics` message for each snapshot, answered by
one `Ack` when the stream is closed. Counters that may be absent are optional fields,
so that absent and zero stay apart on the wire.
-/

import NodeTelemetry.Protobuf.Schema

namespace NodeTelemetry.Relay.Messages

open Protobuf

/-- The relay's answer to a closed stream. -/
def ack : Schema :=
  .field 1 "message" (.plain .text) <|
  .done

/-- One processor core. -/
def cpuInfo : Schema :=
  .field 1 "cpu" (.plain .uint32) <|
  .field 2 "model" (.plain .text) <|
  .field 3 "vendor_id" (.plain .text) <|
  .field 4 "mhz" (.plain .uint64) <|
  .field 5 "usage" (.plain .double) <|
  .done

/-- Traffic of the node. -/
def netUsage : Schema :=
  .field 1 "total_bytes_sent" (.plain .uint64) <|
  .field 2 "total_bytes_received" (.plain .uint64) <|
  .field 3 "total_packets_sent" (.plain .uint64) <|
  .field 4 "total_packets_received" (.plain .uint64) <|
  .field 5 "total_err_in" (.plain .uint64) <|
  .field 6 "total_err_out" (.plain .uint64) <|
  .done

/-- A network interface and its addresses. -/
def interfaceStat : Schema :=
  .field 1 "name" (.plain .text) <|
  .field 2 "hardware_addr" (.plain .text) <|
  .field 3 "addrs" .texts <|
  .done

/-- A mounted disk. -/
def diskUsage : Schema :=
  .field 1 "device" (.plain .text) <|
  .field 2 "mountpoint" (.plain .text) <|
  .field 3 "fstype" (.plain .text) <|
  .field 4 "total" (.plain .uint64) <|
  .field 5 "free" (.plain .uint64) <|
  .field 6 "used" (.plain .uint64) <|
  .field 7 "used_percent" (.plain .double) <|
  .done

/-- Block device counters of the node. -/
def diskIoSummary : Schema :=
  .field 1 "total_read_bytes" (.plain .uint64) <|
  .field 2 "total_write_bytes" (.plain .uint64) <|
  .field 3 "total_read_ops" (.plain .uint64) <|
  .field 4 "total_write_ops" (.plain .uint64) <|
  .done

/-- One line of pressure data. -/
def psiData : Schema :=
  .field 1 "avg10" (.plain .double) <|
  .field 2 "avg60" (.plain .double) <|
  .field 3 "avg300" (.plain .double) <|
  .field 4 "total" (.plain .uint64) <|
  .done

/-- Pressure on one resource. -/
def psiMetrics : Schema :=
  .field 1 "some" (.one psiData) <|
  .field 2 "full" (.one psiData) <|
  .done

/-- Memory of a process. -/
def processMemInfo : Schema :=
  .field 1 "pid" (.plain .uint32) <|
  .field 2 "name" (.plain .text) <|
  .field 3 "memory" (.plain .uint64) <|
  .done

/-- The node of a snapshot. -/
def nodeMetrics : Schema :=
  .field 1 "hostname" (.plain .text) <|
  .field 2 "uptime" (.plain .uint64) <|
  .field 3 "boot_time" (.plain .uint64) <|
  .field 4 "procs" (.plain .uint64) <|
  .field 5 "os" (.plain .text) <|
  .field 6 "platform" (.plain .text) <|
  .field 7 "platform_version" (.plain .text) <|
  .field 8 "kernel_version" (.plain .text) <|
  .field 9 "kernel_arch" (.plain .text) <|
  .field 10 "host_id" (.plain .text) <|
  .field 11 "total_cpu_percentage" (.plain .double) <|
  .field 12 "physical_cores" (.optional .uint32) <|
  .field 13 "cpu_infos" (.many cpuInfo) <|
  .field 14 "total_memory" (.plain .uint64) <|
  .field 15 "available_memory" (.plain .uint64) <|
  .field 16 "used_memory" (.plain .uint64) <|
  .field 17 "free_memory" (.plain .uint64) <|
  .field 18 "memory_used_perc" (.plain .double) <|
  .field 19 "net_usage" (.one netUsage) <|
  .field 20 "network_interfaces" (.many interfaceStat) <|
  .field 21 "disk_usages" (.many diskUsage) <|
  .field 22 "disk_io_summary" (.one diskIoSummary) <|
  .field 23 "psi_cpu_metrics" (.one psiMetrics) <|
  .field 24 "psi_memory_metrics" (.one psiMetrics) <|
  .field 25 "psi_io_metrics" (.one psiMetrics) <|
  .field 26 "top_mem" (.many processMemInfo) <|
  .done

/-- Processor time. -/
def cpuMetrics : Schema :=
  .field 1 "timestamp" (.plain .int64) <|
  .field 2 "usage_core_nano_seconds" (.optional .uint64) <|
  .field 3 "usage_nano_cores" (.optional .uint64) <|
  .done

/-- Memory in bytes, and page faults. -/
def memoryMetrics : Schema :=
  .field 1 "timestamp" (.plain .int64) <|
  .field 2 "working_set_bytes" (.optional .uint64) <|
  .field 3 "available_bytes" (.optional .uint64) <|
  .field 4 "usage_bytes" (.optional .uint64) <|
  .field 5 "rss_bytes" (.optional .uint64) <|
  .field 6 "page_faults" (.optional .uint64) <|
  .field 7 "major_page_faults" (.optional .uint64) <|
  .done

/-- Use of the writable layer. -/
def fileSystemMetrics : Schema :=
  .field 1 "timestamp" (.plain .int64) <|
  .field 2 "mountpoint" (.optional .text) <|
  .field 3 "used_bytes" (.optional .uint64) <|
  .field 4 "inodes_used" (.optional .uint64) <|
  .done

/-- Swap space in bytes. -/
def swapMetrics : Schema :=
  .field 1 "timestamp" (.plain .int64) <|
  .field 2 "swap_available_bytes" (.optional .uint64) <|
  .field 3 "swap_usage_bytes" (.optional .uint64) <|
  .done

/-- A container. -/
def containerMetrics : Schema :=
  .field 1 "id" (.plain .text) <|
  .field 2 "name" (.plain .text) <|
  .field 3 "image" (.plain .text) <|
  .field 4 "created_at" (.plain .int64) <|
  .field 5 "state" (.plain .enumeration) <|
  .field 6 "attempt" (.plain .uint32) <|
  .field 7 "cpu_metrics" (.one cpuMetrics) <|
  .field 8 "memory_metrics" (.one memoryMetrics) <|
  .field 9 "file_system_metrics" (.one fileSystemMetrics) <|
  .field 10 "swap_metrics" (.one swapMetrics) <|
  .done

/-- Usage of a sandbox. -/
def podUsage : Schema :=
  .field 1 "cpu_metrics" (.one cpuMetrics) <|
  .field 2 "memory_metrics" (.one memoryMetrics) <|
  .field 3 "network_rx_bytes" (.optional .uint64) <|
  .field 4 "network_tx_bytes" (.optional .uint64) <|
  .field 5 "process_count" (.optional .uint64) <|
  .done

/-- A sandbox and its containers. -/
def podMetrics : Schema :=
  .field 1 "id" (.plain .text) <|
  .field 2 "uid" (.plain .text) <|
  .field 3 "name" (.plain .text) <|
  .field 4 "namespace" (.plain .text) <|
  .field 5 "created_at" (.plain .int64) <|
  .field 6 "state" (.plain .enumeration) <|
  .field 7 "attempt" (.plain .uint32) <|
  .field 8 "container_metrics" (.many containerMetrics) <|
  .field 9 "usage" (.one podUsage) <|
  .done

/-- One snapshot. -/
def metrics : Schema :=
  .field 1 "timestamp" (.plain .int64) <|
  .field 2 "node_metrics" (.one nodeMetrics) <|
  .field 3 "pod_metrics" (.many podMetrics) <|
  .done

/-- The messages by name. -/
def messages : List (String × Schema) :=
  [("Ack", ack),
   ("ContainerMetrics", containerMetrics),
   ("CpuInfo", cpuInfo),
   ("CpuMetrics", cpuMetrics),
   ("DiskIoSummary", diskIoSummary),
   ("DiskUsage", diskUsage),
   ("FileSystemMetrics", fileSystemMetrics),
   ("InterfaceStat", interfaceStat),
   ("MemoryMetrics", memoryMetrics),
   ("Metrics", metrics),
   ("NetUsage", netUsage),
   ("NodeMetrics", nodeMetrics),
   ("PodMetrics", podMetrics),
   ("PodUsage", podUsage),
   ("ProcessMemInfo", processMemInfo),
   ("PsiData", psiData),
   ("PsiMetrics", psiMetrics),
   ("SwapMetrics", swapMetrics)]

/-- The cases of the enumerations, by name. -/
def enumerations : List (String × List (Int32 × String)) :=
  [("PodState", [(0, "Unknown"), (1, "Ready"), (2, "NotReady")]),
   ("ContainerState", [(0, "Unknown"), (1, "Created"), (2, "Running"), (3, "Exited")])]

end NodeTelemetry.Relay.Messages
