/-
# Snapshots as relay messages

The relay message of a snapshot flattens the node's records into one message and
renames fields, but it loses nothing: `snapshotOf` recovers the snapshot from the
message. Only what the messages could say beyond that has no snapshot: a node without
its traffic totals, pressure without its first line, or a state that is no case of
its enumeration.
-/

import NodeTelemetry.Relay.Messages
import NodeTelemetry.Snapshot.Basic

namespace NodeTelemetry.Relay

open Messages

/-! ## From snapshots to messages -/

def psiDataOf (line : PressureLine) : psiData.Record :=
  (line.avg10, line.avg60, line.avg300, line.total, ())

def psiMetricsOf (reading : PressureReading) : psiMetrics.Record :=
  (some (psiDataOf reading.someLine), reading.fullLine.map psiDataOf, ())

def cpuInfoOf (core : CoreInfo) : cpuInfo.Record :=
  (core.index, core.model, core.vendorId, core.mhz, core.usagePercent, ())

def netUsageOf (totals : NetTotals) : netUsage.Record :=
  (totals.bytesSent, totals.bytesReceived, totals.packetsSent, totals.packetsReceived,
    totals.errorsIn, totals.errorsOut, ())

def interfaceStatOf (interface : InterfaceInfo) : interfaceStat.Record :=
  (interface.name, interface.hardwareAddr, interface.addrs, ())

def diskUsageOf (disk : DiskUsage) : diskUsage.Record :=
  (disk.device, disk.mountpoint, disk.fstype, disk.total, disk.free, disk.used,
    disk.usedPercent, ())

def diskIoSummaryOf (totals : DiskTotals) : diskIoSummary.Record :=
  (totals.readBytes, totals.writeBytes, totals.readOps, totals.writeOps, ())

def processMemInfoOf (process : ProcessMemory) : processMemInfo.Record :=
  (process.pid, process.name, process.rss, ())

def nodeMetricsOf (node : NodeRecord) : nodeMetrics.Record :=
  (node.host.hostname, node.host.uptimeSecs, node.host.bootTime, node.host.procs,
    node.host.os, node.host.platform, node.host.platformVersion, node.host.kernelVersion,
    node.host.kernelArch, node.host.hostId,
    node.cpu.usagePercent, node.cpu.physicalCores, node.cpu.cores.map cpuInfoOf,
    node.memory.total, node.memory.available, node.memory.used, node.memory.free,
    node.memory.usedPercent,
    some (netUsageOf node.network.totals), node.network.interfaces.map interfaceStatOf,
    node.disks.map diskUsageOf, node.diskTotals.map diskIoSummaryOf,
    node.pressure.cpu.map psiMetricsOf, node.pressure.memory.map psiMetricsOf,
    node.pressure.io.map psiMetricsOf,
    node.topMemory.map processMemInfoOf, ())

def cpuMetricsOf (cpu : CpuUsage) : cpuMetrics.Record :=
  (cpu.timestamp, cpu.usageCoreNanoSeconds, cpu.usageNanoCores, ())

def memoryMetricsOf (memory : MemoryUsage) : memoryMetrics.Record :=
  (memory.timestamp, memory.workingSetBytes, memory.availableBytes, memory.usageBytes,
    memory.rssBytes, memory.pageFaults, memory.majorPageFaults, ())

def fileSystemMetricsOf (filesystem : FilesystemUsage) : fileSystemMetrics.Record :=
  (filesystem.timestamp, filesystem.mountpoint, filesystem.usedBytes, filesystem.inodesUsed, ())

def swapMetricsOf (swap : SwapUsage) : swapMetrics.Record :=
  (swap.timestamp, swap.availableBytes, swap.usageBytes, ())

/-- The relay numbers sandbox states from one; zero stands for an unknown state. -/
def podStateOf : SandboxState → Int32
  | .unknown => 0
  | .ready => 1
  | .notReady => 2

/-- The relay numbers container states from one; zero stands for an unknown state. -/
def containerStateOf : UnitState → Int32
  | .unknown => 0
  | .created => 1
  | .running => 2
  | .exited => 3

def containerMetricsOf (unit : UnitRecord) : containerMetrics.Record :=
  (unit.id, unit.name, unit.image, unit.createdAt, containerStateOf unit.state, unit.attempt,
    unit.cpu.map cpuMetricsOf, unit.memory.map memoryMetricsOf,
    unit.filesystem.map fileSystemMetricsOf, unit.swap.map swapMetricsOf, ())

def podUsageOf (usage : SandboxUsage) : podUsage.Record :=
  (usage.cpu.map cpuMetricsOf, usage.memory.map memoryMetricsOf, usage.networkRxBytes,
    usage.networkTxBytes, usage.processCount, ())

def podMetricsOf (sandbox : SandboxRecord) : podMetrics.Record :=
  (sandbox.id, sandbox.uid, sandbox.name, sandbox.podNamespace, sandbox.createdAt,
    podStateOf sandbox.state, sandbox.attempt, sandbox.units.map containerMetricsOf,
    sandbox.usage.map podUsageOf, ())

/-- The relay message of a snapshot. -/
def metricsOf (snapshot : Snapshot) : metrics.Record :=
  (snapshot.timestamp, snapshot.node.map nodeMetricsOf, snapshot.sandboxes.map podMetricsOf, ())

/-- What is sent for a snapshot. -/
def bytesOf (snapshot : Snapshot) : List UInt8 :=
  metrics.write (metricsOf snapshot)

/-! ## From messages to snapshots -/

def lineOf : psiData.Record → PressureLine
  | (avg10, avg60, avg300, total, ()) => { avg10, avg60, avg300, total }

def readingOf? : psiMetrics.Record → Option PressureReading
  | (someLine, fullLine, ()) =>
    someLine.map fun line => { someLine := lineOf line, fullLine := fullLine.map lineOf }

def coreOf : cpuInfo.Record → CoreInfo
  | (index, model, vendorId, mhz, usagePercent, ()) =>
    { index, model, vendorId, mhz, usagePercent }

def netTotalsOf : netUsage.Record → NetTotals
  | (bytesSent, bytesReceived, packetsSent, packetsReceived, errorsIn, errorsOut, ()) =>
    { bytesSent, bytesReceived, packetsSent, packetsReceived, errorsIn, errorsOut }

def interfaceOf : interfaceStat.Record → InterfaceInfo
  | (name, hardwareAddr, addrs, ()) => { name, hardwareAddr, addrs }

def diskOf : diskUsage.Record → DiskUsage
  | (device, mountpoint, fstype, total, free, used, usedPercent, ()) =>
    { device, mountpoint, fstype, total, free, used, usedPercent }

def diskTotalsOf : diskIoSummary.Record → DiskTotals
  | (readBytes, writeBytes, readOps, writeOps, ()) =>
    { readBytes, writeBytes, readOps, writeOps }

def processOf : processMemInfo.Record → ProcessMemory
  | (pid, name, rss, ()) => { pid, name, rss }

/-- Read a value that may be absent. -/
def presentOr? (read : α → Option β) : Option α → Option (Option β)
  | none => some none
  | some value => (read value).map some

def nodeOf? : nodeMetrics.Record → Option NodeRecord
  | (hostname, uptimeSecs, bootTime, procs, os, platform, platformVersion, kernelVersion,
      kernelArch, hostId, cpuPercent, physicalCores, cores, total, available, used, free,
      usedPercent, totals, interfaces, disks, diskTotals, cpuPressure, memoryPressure,
      ioPressure, topMemory, ()) => do
    let totals ← totals
    let cpuPressure ← presentOr? readingOf? cpuPressure
    let memoryPressure ← presentOr? readingOf? memoryPressure
    let ioPressure ← presentOr? readingOf? ioPressure
    return {
      host := { hostname, uptimeSecs, bootTime, procs, os, platform, platformVersion,
                kernelVersion, kernelArch, hostId }
      cpu := { usagePercent := cpuPercent, physicalCores, cores := cores.map coreOf }
      memory := { total, available, used, free, usedPercent }
      diskTotals := diskTotals.map diskTotalsOf
      disks := disks.map diskOf
      network := { totals := netTotalsOf totals, interfaces := interfaces.map interfaceOf }
      pressure := { cpu := cpuPressure, memory := memoryPressure, io := ioPressure }
      topMemory := topMemory.map processOf }

def cpuUsageOf : cpuMetrics.Record → CpuUsage
  | (timestamp, usageCoreNanoSeconds, usageNanoCores, ()) =>
    { timestamp, usageCoreNanoSeconds, usageNanoCores }

def memoryUsageOf : memoryMetrics.Record → MemoryUsage
  | (timestamp, workingSetBytes, availableBytes, usageBytes, rssBytes, pageFaults,
      majorPageFaults, ()) =>
    { timestamp, workingSetBytes, availableBytes, usageBytes, rssBytes, pageFaults,
      majorPageFaults }

def filesystemUsageOf : fileSystemMetrics.Record → FilesystemUsage
  | (timestamp, mountpoint, usedBytes, inodesUsed, ()) =>
    { timestamp, mountpoint, usedBytes, inodesUsed }

def swapUsageOf : swapMetrics.Record → SwapUsage
  | (timestamp, availableBytes, usageBytes, ()) => { timestamp, availableBytes, usageBytes }

def sandboxStateOf? (state : Int32) : Option SandboxState :=
  [.unknown, .ready, .notReady].find? fun candidate => podStateOf candidate == state

def unitStateOf? (state : Int32) : Option UnitState :=
  [.unknown, .created, .running, .exited].find? fun candidate => containerStateOf candidate == state

def unitOf? : containerMetrics.Record → Option UnitRecord
  | (id, name, image, createdAt, state, attempt, cpu, memory, filesystem, swap, ()) => do
    let state ← unitStateOf? state
    return {
      id, name, image, createdAt, state, attempt
      cpu := cpu.map cpuUsageOf
      memory := memory.map memoryUsageOf
      filesystem := filesystem.map filesystemUsageOf
      swap := swap.map swapUsageOf }

def sandboxUsageOf : podUsage.Record → SandboxUsage
  | (cpu, memory, networkRxBytes, networkTxBytes, processCount, ()) =>
    { cpu := cpu.map cpuUsageOf, memory := memory.map memoryUsageOf, networkRxBytes,
      networkTxBytes, processCount }

def sandboxOf? : podMetrics.Record → Option SandboxRecord
  | (id, uid, name, podNamespace, createdAt, state, attempt, units, usage, ()) => do
    let state ← sandboxStateOf? state
    let units ← units.mapM unitOf?
    return {
      id, uid, name, podNamespace, createdAt, state, attempt
      usage := usage.map sandboxUsageOf
      units }

/-- The snapshot that a relay message stands for. -/
def snapshotOf? : metrics.Record → Option Snapshot
  | (timestamp, node, sandboxes, ()) => do
    let node ← presentOr? nodeOf? node
    let sandboxes ← sandboxes.mapM sandboxOf?
    return { timestamp, node, sandboxes }

/-- The snapshot that was sent as these bytes. -/
def snapshotOfBytes? (bytes : List UInt8) : Option Snapshot := do
  snapshotOf? (← metrics.read? bytes)

end NodeTelemetry.Relay
