/-
# The JSON form of snapshots

Each record is an object with one member for each field, in a fixed order and under
the field's name in lower case with underscores. An absent value is null. When a form
is read, an absent value may also be missing, further members are ignored, a repeated
field is refused, and a record may be a plain list of all its fields in order. States
are written as their names.
-/

import NodeTelemetry.Json.Value
import NodeTelemetry.Snapshot.Basic

namespace NodeTelemetry

def SandboxState.toJson (state : SandboxState) : Json := .text state.name

def SandboxState.ofJson? (json : Json) : Option SandboxState := do
  SandboxState.ofName? (← json.caseName?)

def UnitState.toJson (state : UnitState) : Json := .text state.name

def UnitState.ofJson? (json : Json) : Option UnitState := do
  UnitState.ofName? (← json.caseName?)

/-! ## The node -/

def HostInfo.fieldNames : List String :=
  ["hostname", "uptime_secs", "boot_time", "procs", "os", "platform", "platform_version",
    "kernel_version", "kernel_arch", "host_id"]

def HostInfo.toJson (r : HostInfo) : Json :=
  .record fieldNames
    [.text r.hostname, .ofUInt64 r.uptimeSecs, .ofUInt64 r.bootTime, .ofUInt64 r.procs,
      .text r.os, .text r.platform, .text r.platformVersion, .text r.kernelVersion,
      .text r.kernelArch, .text r.hostId]

def HostInfo.ofJson? (json : Json) : Option HostInfo := do
  let [hostname, uptimeSecs, bootTime, procs, os, platform, platformVersion, kernelVersion,
      kernelArch, hostId] ← json.slots? fieldNames | none
  return {
    hostname := ← Json.required? Json.text? hostname
    uptimeSecs := ← Json.required? Json.uint64? uptimeSecs
    bootTime := ← Json.required? Json.uint64? bootTime
    procs := ← Json.required? Json.uint64? procs
    os := ← Json.required? Json.text? os
    platform := ← Json.required? Json.text? platform
    platformVersion := ← Json.required? Json.text? platformVersion
    kernelVersion := ← Json.required? Json.text? kernelVersion
    kernelArch := ← Json.required? Json.text? kernelArch
    hostId := ← Json.required? Json.text? hostId }

def CoreInfo.fieldNames : List String :=
  ["index", "model", "vendor_id", "mhz", "usage_percent"]

def CoreInfo.toJson (r : CoreInfo) : Json :=
  .record fieldNames
    [.ofUInt32 r.index, .text r.model, .text r.vendorId, .ofUInt64 r.mhz,
      .ofBinary64 r.usagePercent]

def CoreInfo.ofJson? (json : Json) : Option CoreInfo := do
  let [index, model, vendorId, mhz, usagePercent] ← json.slots? fieldNames | none
  return {
    index := ← Json.required? Json.uint32? index
    model := ← Json.required? Json.text? model
    vendorId := ← Json.required? Json.text? vendorId
    mhz := ← Json.required? Json.uint64? mhz
    usagePercent := ← Json.required? Json.binary64? usagePercent }

def CpuSummary.fieldNames : List String :=
  ["usage_percent", "physical_cores", "cores"]

def CpuSummary.toJson (r : CpuSummary) : Json :=
  .record fieldNames
    [.ofBinary64 r.usagePercent, .ofOption Json.ofUInt32 r.physicalCores,
      .ofList CoreInfo.toJson r.cores]

def CpuSummary.ofJson? (json : Json) : Option CpuSummary := do
  let [usagePercent, physicalCores, cores] ← json.slots? fieldNames | none
  return {
    usagePercent := ← Json.required? Json.binary64? usagePercent
    physicalCores := ← Json.optional? Json.uint32? physicalCores
    cores := ← Json.required? (Json.list? CoreInfo.ofJson?) cores }

def MemoryInfo.fieldNames : List String :=
  ["total", "available", "used", "free", "used_percent"]

def MemoryInfo.toJson (r : MemoryInfo) : Json :=
  .record fieldNames
    [.ofUInt64 r.total, .ofUInt64 r.available, .ofUInt64 r.used, .ofUInt64 r.free,
      .ofBinary64 r.usedPercent]

def MemoryInfo.ofJson? (json : Json) : Option MemoryInfo := do
  let [total, available, used, free, usedPercent] ← json.slots? fieldNames | none
  return {
    total := ← Json.required? Json.uint64? total
    available := ← Json.required? Json.uint64? available
    used := ← Json.required? Json.uint64? used
    free := ← Json.required? Json.uint64? free
    usedPercent := ← Json.required? Json.binary64? usedPercent }

def DiskTotals.fieldNames : List String :=
  ["read_bytes", "write_bytes", "read_ops", "write_ops"]

def DiskTotals.toJson (r : DiskTotals) : Json :=
  .record fieldNames
    [.ofUInt64 r.readBytes, .ofUInt64 r.writeBytes, .ofUInt64 r.readOps, .ofUInt64 r.writeOps]

def DiskTotals.ofJson? (json : Json) : Option DiskTotals := do
  let [readBytes, writeBytes, readOps, writeOps] ← json.slots? fieldNames | none
  return {
    readBytes := ← Json.required? Json.uint64? readBytes
    writeBytes := ← Json.required? Json.uint64? writeBytes
    readOps := ← Json.required? Json.uint64? readOps
    writeOps := ← Json.required? Json.uint64? writeOps }

def DiskUsage.fieldNames : List String :=
  ["device", "mountpoint", "fstype", "total", "free", "used", "used_percent"]

def DiskUsage.toJson (r : DiskUsage) : Json :=
  .record fieldNames
    [.text r.device, .text r.mountpoint, .text r.fstype, .ofUInt64 r.total, .ofUInt64 r.free,
      .ofUInt64 r.used, .ofBinary64 r.usedPercent]

def DiskUsage.ofJson? (json : Json) : Option DiskUsage := do
  let [device, mountpoint, fstype, total, free, used, usedPercent] ← json.slots? fieldNames | none
  return {
    device := ← Json.required? Json.text? device
    mountpoint := ← Json.required? Json.text? mountpoint
    fstype := ← Json.required? Json.text? fstype
    total := ← Json.required? Json.uint64? total
    free := ← Json.required? Json.uint64? free
    used := ← Json.required? Json.uint64? used
    usedPercent := ← Json.required? Json.binary64? usedPercent }

def NetTotals.fieldNames : List String :=
  ["bytes_sent", "bytes_received", "packets_sent", "packets_received", "errors_in", "errors_out"]

def NetTotals.toJson (r : NetTotals) : Json :=
  .record fieldNames
    [.ofUInt64 r.bytesSent, .ofUInt64 r.bytesReceived, .ofUInt64 r.packetsSent,
      .ofUInt64 r.packetsReceived, .ofUInt64 r.errorsIn, .ofUInt64 r.errorsOut]

def NetTotals.ofJson? (json : Json) : Option NetTotals := do
  let [bytesSent, bytesReceived, packetsSent, packetsReceived, errorsIn, errorsOut] ←
    json.slots? fieldNames | none
  return {
    bytesSent := ← Json.required? Json.uint64? bytesSent
    bytesReceived := ← Json.required? Json.uint64? bytesReceived
    packetsSent := ← Json.required? Json.uint64? packetsSent
    packetsReceived := ← Json.required? Json.uint64? packetsReceived
    errorsIn := ← Json.required? Json.uint64? errorsIn
    errorsOut := ← Json.required? Json.uint64? errorsOut }

def InterfaceInfo.fieldNames : List String :=
  ["name", "hardware_addr", "addrs"]

def InterfaceInfo.toJson (r : InterfaceInfo) : Json :=
  .record fieldNames
    [.text r.name, .text r.hardwareAddr, .ofList Json.text r.addrs]

def InterfaceInfo.ofJson? (json : Json) : Option InterfaceInfo := do
  let [name, hardwareAddr, addrs] ← json.slots? fieldNames | none
  return {
    name := ← Json.required? Json.text? name
    hardwareAddr := ← Json.required? Json.text? hardwareAddr
    addrs := ← Json.required? (Json.list? Json.text?) addrs }

def NetworkSummary.fieldNames : List String :=
  ["totals", "interfaces"]

def NetworkSummary.toJson (r : NetworkSummary) : Json :=
  .record fieldNames
    [r.totals.toJson, .ofList InterfaceInfo.toJson r.interfaces]

def NetworkSummary.ofJson? (json : Json) : Option NetworkSummary := do
  let [totals, interfaces] ← json.slots? fieldNames | none
  return {
    totals := ← Json.required? NetTotals.ofJson? totals
    interfaces := ← Json.required? (Json.list? InterfaceInfo.ofJson?) interfaces }

def PressureLine.fieldNames : List String :=
  ["avg10", "avg60", "avg300", "total"]

def PressureLine.toJson (r : PressureLine) : Json :=
  .record fieldNames
    [.ofBinary64 r.avg10, .ofBinary64 r.avg60, .ofBinary64 r.avg300, .ofUInt64 r.total]

def PressureLine.ofJson? (json : Json) : Option PressureLine := do
  let [avg10, avg60, avg300, total] ← json.slots? fieldNames | none
  return {
    avg10 := ← Json.required? Json.binary64? avg10
    avg60 := ← Json.required? Json.binary64? avg60
    avg300 := ← Json.required? Json.binary64? avg300
    total := ← Json.required? Json.uint64? total }

def PressureReading.fieldNames : List String :=
  ["some", "full"]

def PressureReading.toJson (r : PressureReading) : Json :=
  .record fieldNames
    [r.someLine.toJson, .ofOption PressureLine.toJson r.fullLine]

def PressureReading.ofJson? (json : Json) : Option PressureReading := do
  let [someLine, fullLine] ← json.slots? fieldNames | none
  return {
    someLine := ← Json.required? PressureLine.ofJson? someLine
    fullLine := ← Json.optional? PressureLine.ofJson? fullLine }

def Pressure.fieldNames : List String :=
  ["cpu", "memory", "io"]

def Pressure.toJson (r : Pressure) : Json :=
  .record fieldNames
    [.ofOption PressureReading.toJson r.cpu, .ofOption PressureReading.toJson r.memory,
      .ofOption PressureReading.toJson r.io]

def Pressure.ofJson? (json : Json) : Option Pressure := do
  let [cpu, memory, io] ← json.slots? fieldNames | none
  return {
    cpu := ← Json.optional? PressureReading.ofJson? cpu
    memory := ← Json.optional? PressureReading.ofJson? memory
    io := ← Json.optional? PressureReading.ofJson? io }

def ProcessMemory.fieldNames : List String :=
  ["pid", "name", "rss"]

def ProcessMemory.toJson (r : ProcessMemory) : Json :=
  .record fieldNames
    [.ofUInt32 r.pid, .text r.name, .ofUInt64 r.rss]

def ProcessMemory.ofJson? (json : Json) : Option ProcessMemory := do
  let [pid, name, rss] ← json.slots? fieldNames | none
  return {
    pid := ← Json.required? Json.uint32? pid
    name := ← Json.required? Json.text? name
    rss := ← Json.required? Json.uint64? rss }

def NodeRecord.fieldNames : List String :=
  ["host", "cpu", "memory", "disk_io", "disks", "network", "pressure", "top_memory"]

def NodeRecord.toJson (r : NodeRecord) : Json :=
  .record fieldNames
    [r.host.toJson, r.cpu.toJson, r.memory.toJson, .ofOption DiskTotals.toJson r.diskTotals,
      .ofList DiskUsage.toJson r.disks, r.network.toJson, r.pressure.toJson,
      .ofList ProcessMemory.toJson r.topMemory]

def NodeRecord.ofJson? (json : Json) : Option NodeRecord := do
  let [host, cpu, memory, diskTotals, disks, network, pressure, topMemory] ←
    json.slots? fieldNames | none
  return {
    host := ← Json.required? HostInfo.ofJson? host
    cpu := ← Json.required? CpuSummary.ofJson? cpu
    memory := ← Json.required? MemoryInfo.ofJson? memory
    diskTotals := ← Json.optional? DiskTotals.ofJson? diskTotals
    disks := ← Json.required? (Json.list? DiskUsage.ofJson?) disks
    network := ← Json.required? NetworkSummary.ofJson? network
    pressure := ← Json.required? Pressure.ofJson? pressure
    topMemory := ← Json.required? (Json.list? ProcessMemory.ofJson?) topMemory }

/-! ## Sandboxes and containers -/

def CpuUsage.fieldNames : List String :=
  ["timestamp", "usage_core_nano_seconds", "usage_nano_cores"]

def CpuUsage.toJson (r : CpuUsage) : Json :=
  .record fieldNames
    [.ofInt64 r.timestamp, .ofOption Json.ofUInt64 r.usageCoreNanoSeconds,
      .ofOption Json.ofUInt64 r.usageNanoCores]

def CpuUsage.ofJson? (json : Json) : Option CpuUsage := do
  let [timestamp, usageCoreNanoSeconds, usageNanoCores] ← json.slots? fieldNames | none
  return {
    timestamp := ← Json.required? Json.int64? timestamp
    usageCoreNanoSeconds := ← Json.optional? Json.uint64? usageCoreNanoSeconds
    usageNanoCores := ← Json.optional? Json.uint64? usageNanoCores }

def MemoryUsage.fieldNames : List String :=
  ["timestamp", "working_set_bytes", "available_bytes", "usage_bytes", "rss_bytes",
    "page_faults", "major_page_faults"]

def MemoryUsage.toJson (r : MemoryUsage) : Json :=
  .record fieldNames
    [.ofInt64 r.timestamp, .ofOption Json.ofUInt64 r.workingSetBytes,
      .ofOption Json.ofUInt64 r.availableBytes, .ofOption Json.ofUInt64 r.usageBytes,
      .ofOption Json.ofUInt64 r.rssBytes, .ofOption Json.ofUInt64 r.pageFaults,
      .ofOption Json.ofUInt64 r.majorPageFaults]

def MemoryUsage.ofJson? (json : Json) : Option MemoryUsage := do
  let [timestamp, workingSetBytes, availableBytes, usageBytes, rssBytes, pageFaults,
      majorPageFaults] ← json.slots? fieldNames | none
  return {
    timestamp := ← Json.required? Json.int64? timestamp
    workingSetBytes := ← Json.optional? Json.uint64? workingSetBytes
    availableBytes := ← Json.optional? Json.uint64? availableBytes
    usageBytes := ← Json.optional? Json.uint64? usageBytes
    rssBytes := ← Json.optional? Json.uint64? rssBytes
    pageFaults := ← Json.optional? Json.uint64? pageFaults
    majorPageFaults := ← Json.optional? Json.uint64? majorPageFaults }

def FilesystemUsage.fieldNames : List String :=
  ["timestamp", "mountpoint", "used_bytes", "inodes_used"]

def FilesystemUsage.toJson (r : FilesystemUsage) : Json :=
  .record fieldNames
    [.ofInt64 r.timestamp, .ofOption Json.text r.mountpoint, .ofOption Json.ofUInt64 r.usedBytes,
      .ofOption Json.ofUInt64 r.inodesUsed]

def FilesystemUsage.ofJson? (json : Json) : Option FilesystemUsage := do
  let [timestamp, mountpoint, usedBytes, inodesUsed] ← json.slots? fieldNames | none
  return {
    timestamp := ← Json.required? Json.int64? timestamp
    mountpoint := ← Json.optional? Json.text? mountpoint
    usedBytes := ← Json.optional? Json.uint64? usedBytes
    inodesUsed := ← Json.optional? Json.uint64? inodesUsed }

def SwapUsage.fieldNames : List String :=
  ["timestamp", "available_bytes", "usage_bytes"]

def SwapUsage.toJson (r : SwapUsage) : Json :=
  .record fieldNames
    [.ofInt64 r.timestamp, .ofOption Json.ofUInt64 r.availableBytes,
      .ofOption Json.ofUInt64 r.usageBytes]

def SwapUsage.ofJson? (json : Json) : Option SwapUsage := do
  let [timestamp, availableBytes, usageBytes] ← json.slots? fieldNames | none
  return {
    timestamp := ← Json.required? Json.int64? timestamp
    availableBytes := ← Json.optional? Json.uint64? availableBytes
    usageBytes := ← Json.optional? Json.uint64? usageBytes }

def SandboxUsage.fieldNames : List String :=
  ["cpu", "memory", "network_rx_bytes", "network_tx_bytes", "process_count"]

def SandboxUsage.toJson (r : SandboxUsage) : Json :=
  .record fieldNames
    [.ofOption CpuUsage.toJson r.cpu, .ofOption MemoryUsage.toJson r.memory,
      .ofOption Json.ofUInt64 r.networkRxBytes, .ofOption Json.ofUInt64 r.networkTxBytes,
      .ofOption Json.ofUInt64 r.processCount]

def SandboxUsage.ofJson? (json : Json) : Option SandboxUsage := do
  let [cpu, memory, networkRxBytes, networkTxBytes, processCount] ← json.slots? fieldNames | none
  return {
    cpu := ← Json.optional? CpuUsage.ofJson? cpu
    memory := ← Json.optional? MemoryUsage.ofJson? memory
    networkRxBytes := ← Json.optional? Json.uint64? networkRxBytes
    networkTxBytes := ← Json.optional? Json.uint64? networkTxBytes
    processCount := ← Json.optional? Json.uint64? processCount }

def UnitRecord.fieldNames : List String :=
  ["id", "name", "image", "created_at", "state", "attempt", "cpu", "memory", "filesystem", "swap"]

def UnitRecord.toJson (r : UnitRecord) : Json :=
  .record fieldNames
    [.text r.id, .text r.name, .text r.image, .ofInt64 r.createdAt, r.state.toJson,
      .ofUInt32 r.attempt, .ofOption CpuUsage.toJson r.cpu,
      .ofOption MemoryUsage.toJson r.memory, .ofOption FilesystemUsage.toJson r.filesystem,
      .ofOption SwapUsage.toJson r.swap]

def UnitRecord.ofJson? (json : Json) : Option UnitRecord := do
  let [id, name, image, createdAt, state, attempt, cpu, memory, filesystem, swap] ←
    json.slots? fieldNames | none
  return {
    id := ← Json.required? Json.text? id
    name := ← Json.required? Json.text? name
    image := ← Json.required? Json.text? image
    createdAt := ← Json.required? Json.int64? createdAt
    state := ← Json.required? UnitState.ofJson? state
    attempt := ← Json.required? Json.uint32? attempt
    cpu := ← Json.optional? CpuUsage.ofJson? cpu
    memory := ← Json.optional? MemoryUsage.ofJson? memory
    filesystem := ← Json.optional? FilesystemUsage.ofJson? filesystem
    swap := ← Json.optional? SwapUsage.ofJson? swap }

def SandboxRecord.fieldNames : List String :=
  ["id", "uid", "name", "namespace", "created_at", "state", "attempt", "usage", "contained_units"]

def SandboxRecord.toJson (r : SandboxRecord) : Json :=
  .record fieldNames
    [.text r.id, .text r.uid, .text r.name, .text r.podNamespace, .ofInt64 r.createdAt,
      r.state.toJson, .ofUInt32 r.attempt, .ofOption SandboxUsage.toJson r.usage,
      .ofList UnitRecord.toJson r.units]

def SandboxRecord.ofJson? (json : Json) : Option SandboxRecord := do
  let [id, uid, name, podNamespace, createdAt, state, attempt, usage, units] ←
    json.slots? fieldNames | none
  return {
    id := ← Json.required? Json.text? id
    uid := ← Json.required? Json.text? uid
    name := ← Json.required? Json.text? name
    podNamespace := ← Json.required? Json.text? podNamespace
    createdAt := ← Json.required? Json.int64? createdAt
    state := ← Json.required? SandboxState.ofJson? state
    attempt := ← Json.required? Json.uint32? attempt
    usage := ← Json.optional? SandboxUsage.ofJson? usage
    units := ← Json.required? (Json.list? UnitRecord.ofJson?) units }

/-! ## The whole snapshot -/

def Snapshot.fieldNames : List String :=
  ["timestamp", "node", "units"]

def Snapshot.toJson (r : Snapshot) : Json :=
  .record fieldNames
    [.ofInt64 r.timestamp, .ofOption NodeRecord.toJson r.node,
      .ofList SandboxRecord.toJson r.sandboxes]

def Snapshot.ofJson? (json : Json) : Option Snapshot := do
  let [timestamp, node, sandboxes] ← json.slots? fieldNames | none
  return {
    timestamp := ← Json.required? Json.int64? timestamp
    node := ← Json.optional? NodeRecord.ofJson? node
    sandboxes := ← Json.required? (Json.list? SandboxRecord.ofJson?) sandboxes }

end NodeTelemetry
