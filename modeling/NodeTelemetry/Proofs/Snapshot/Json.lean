/-
# Snapshots survive their JSON form

Each record of a snapshot is written with all its fields and read field by field, so a record
comes back as soon as its parts do. Only doubles stand in the way: one that is not finite has no
JSON form. A snapshot whose doubles are all finite is read back as it was, from its own tree and
from each tree that conveys it, and no other such snapshot has its tree.
-/

import NodeTelemetry.Json.Access
import NodeTelemetry.Snapshot.Json
import NodeTelemetry.Proofs.Json.Faithful

namespace NodeTelemetry

open Json

/-! ## The doubles of a snapshot -/

def PressureLine.doubles (line : PressureLine) : List Binary64 :=
  [line.avg10, line.avg60, line.avg300]

def PressureReading.doubles (reading : PressureReading) : List Binary64 :=
  reading.someLine.doubles ++ reading.fullLine.toList.flatMap PressureLine.doubles

def Pressure.doubles (pressure : Pressure) : List Binary64 :=
  (pressure.cpu.toList ++ pressure.memory.toList ++ pressure.io.toList).flatMap
    PressureReading.doubles

def CpuSummary.doubles (cpu : CpuSummary) : List Binary64 :=
  cpu.usagePercent :: cpu.cores.map (·.usagePercent)

def NodeRecord.doubles (node : NodeRecord) : List Binary64 :=
  node.cpu.doubles ++ node.memory.usedPercent :: node.disks.map (·.usedPercent) ++
    node.pressure.doubles

/-- Every double of a snapshot; only its node has any. -/
def Snapshot.doubles (snapshot : Snapshot) : List Binary64 :=
  snapshot.node.toList.flatMap NodeRecord.doubles

/-! ## Records without doubles -/

theorem SandboxState.faithful (state : SandboxState) : Faithful toJson ofJson? state where
  ne_null := nofun
  reads := by
    rintro json ⟨⟩
    cases state <;> rfl

theorem UnitState.faithful (state : UnitState) : Faithful toJson ofJson? state where
  ne_null := nofun
  reads := by
    rintro json ⟨⟩
    cases state <;> rfl

theorem HostInfo.faithful (host : HostInfo) : Faithful toJson ofJson? host := by
  refine .of_fields rfl (fun _ => rfl) (by decide) fun given told => ?_
  simp [fieldNames,
    (told "hostname" _ rfl).required (faithful_text _),
    (told "uptime_secs" _ rfl).required (faithful_uint64 _),
    (told "boot_time" _ rfl).required (faithful_uint64 _),
    (told "procs" _ rfl).required (faithful_uint64 _),
    (told "os" _ rfl).required (faithful_text _),
    (told "platform" _ rfl).required (faithful_text _),
    (told "platform_version" _ rfl).required (faithful_text _),
    (told "kernel_version" _ rfl).required (faithful_text _),
    (told "kernel_arch" _ rfl).required (faithful_text _),
    (told "host_id" _ rfl).required (faithful_text _)]

theorem DiskTotals.faithful (totals : DiskTotals) : Faithful toJson ofJson? totals := by
  refine .of_fields rfl (fun _ => rfl) (by decide) fun given told => ?_
  simp [fieldNames,
    (told "read_bytes" _ rfl).required (faithful_uint64 _),
    (told "write_bytes" _ rfl).required (faithful_uint64 _),
    (told "read_ops" _ rfl).required (faithful_uint64 _),
    (told "write_ops" _ rfl).required (faithful_uint64 _)]

theorem NetTotals.faithful (totals : NetTotals) : Faithful toJson ofJson? totals := by
  refine .of_fields rfl (fun _ => rfl) (by decide) fun given told => ?_
  simp [fieldNames,
    (told "bytes_sent" _ rfl).required (faithful_uint64 _),
    (told "bytes_received" _ rfl).required (faithful_uint64 _),
    (told "packets_sent" _ rfl).required (faithful_uint64 _),
    (told "packets_received" _ rfl).required (faithful_uint64 _),
    (told "errors_in" _ rfl).required (faithful_uint64 _),
    (told "errors_out" _ rfl).required (faithful_uint64 _)]

theorem InterfaceInfo.faithful (interface : InterfaceInfo) :
    Faithful toJson ofJson? interface := by
  refine .of_fields rfl (fun _ => rfl) (by decide) fun given told => ?_
  simp [fieldNames,
    (told "name" _ rfl).required (faithful_text _),
    (told "hardware_addr" _ rfl).required (faithful_text _),
    (told "addrs" _ rfl).required (faithful_list fun addr _ => faithful_text addr)]

theorem NetworkSummary.faithful (network : NetworkSummary) :
    Faithful toJson ofJson? network := by
  refine .of_fields rfl (fun _ => rfl) (by decide) fun given told => ?_
  simp [fieldNames,
    (told "totals" _ rfl).required network.totals.faithful,
    (told "interfaces" _ rfl).required (faithful_list fun interface _ => interface.faithful)]

theorem ProcessMemory.faithful (process : ProcessMemory) :
    Faithful toJson ofJson? process := by
  refine .of_fields rfl (fun _ => rfl) (by decide) fun given told => ?_
  simp [fieldNames,
    (told "pid" _ rfl).required (faithful_uint32 _),
    (told "name" _ rfl).required (faithful_text _),
    (told "rss" _ rfl).required (faithful_uint64 _)]

theorem CpuUsage.faithful (usage : CpuUsage) : Faithful toJson ofJson? usage := by
  refine .of_fields rfl (fun _ => rfl) (by decide) fun given told => ?_
  simp [fieldNames,
    (told "timestamp" _ rfl).required (faithful_int64 _),
    (told "usage_core_nano_seconds" _ rfl).optional fun n _ => faithful_uint64 n,
    (told "usage_nano_cores" _ rfl).optional fun n _ => faithful_uint64 n]

theorem MemoryUsage.faithful (usage : MemoryUsage) : Faithful toJson ofJson? usage := by
  refine .of_fields rfl (fun _ => rfl) (by decide) fun given told => ?_
  simp [fieldNames,
    (told "timestamp" _ rfl).required (faithful_int64 _),
    (told "working_set_bytes" _ rfl).optional fun n _ => faithful_uint64 n,
    (told "available_bytes" _ rfl).optional fun n _ => faithful_uint64 n,
    (told "usage_bytes" _ rfl).optional fun n _ => faithful_uint64 n,
    (told "rss_bytes" _ rfl).optional fun n _ => faithful_uint64 n,
    (told "page_faults" _ rfl).optional fun n _ => faithful_uint64 n,
    (told "major_page_faults" _ rfl).optional fun n _ => faithful_uint64 n]

theorem FilesystemUsage.faithful (usage : FilesystemUsage) :
    Faithful toJson ofJson? usage := by
  refine .of_fields rfl (fun _ => rfl) (by decide) fun given told => ?_
  simp [fieldNames,
    (told "timestamp" _ rfl).required (faithful_int64 _),
    (told "mountpoint" _ rfl).optional fun text _ => faithful_text text,
    (told "used_bytes" _ rfl).optional fun n _ => faithful_uint64 n,
    (told "inodes_used" _ rfl).optional fun n _ => faithful_uint64 n]

theorem SwapUsage.faithful (usage : SwapUsage) : Faithful toJson ofJson? usage := by
  refine .of_fields rfl (fun _ => rfl) (by decide) fun given told => ?_
  simp [fieldNames,
    (told "timestamp" _ rfl).required (faithful_int64 _),
    (told "available_bytes" _ rfl).optional fun n _ => faithful_uint64 n,
    (told "usage_bytes" _ rfl).optional fun n _ => faithful_uint64 n]

theorem SandboxUsage.faithful (usage : SandboxUsage) : Faithful toJson ofJson? usage := by
  refine .of_fields rfl (fun _ => rfl) (by decide) fun given told => ?_
  simp [fieldNames,
    (told "cpu" _ rfl).optional fun cpu _ => cpu.faithful,
    (told "memory" _ rfl).optional fun memory _ => memory.faithful,
    (told "network_rx_bytes" _ rfl).optional fun n _ => faithful_uint64 n,
    (told "network_tx_bytes" _ rfl).optional fun n _ => faithful_uint64 n,
    (told "process_count" _ rfl).optional fun n _ => faithful_uint64 n]

theorem UnitRecord.faithful (unit : UnitRecord) : Faithful toJson ofJson? unit := by
  refine .of_fields rfl (fun _ => rfl) (by decide) fun given told => ?_
  simp [fieldNames,
    (told "id" _ rfl).required (faithful_text _),
    (told "name" _ rfl).required (faithful_text _),
    (told "image" _ rfl).required (faithful_text _),
    (told "created_at" _ rfl).required (faithful_int64 _),
    (told "state" _ rfl).required unit.state.faithful,
    (told "attempt" _ rfl).required (faithful_uint32 _),
    (told "cpu" _ rfl).optional fun cpu _ => cpu.faithful,
    (told "memory" _ rfl).optional fun memory _ => memory.faithful,
    (told "filesystem" _ rfl).optional fun filesystem _ => filesystem.faithful,
    (told "swap" _ rfl).optional fun swap _ => swap.faithful]

theorem SandboxRecord.faithful (sandbox : SandboxRecord) :
    Faithful toJson ofJson? sandbox := by
  refine .of_fields rfl (fun _ => rfl) (by decide) fun given told => ?_
  simp [fieldNames,
    (told "id" _ rfl).required (faithful_text _),
    (told "uid" _ rfl).required (faithful_text _),
    (told "name" _ rfl).required (faithful_text _),
    (told "namespace" _ rfl).required (faithful_text _),
    (told "created_at" _ rfl).required (faithful_int64 _),
    (told "state" _ rfl).required sandbox.state.faithful,
    (told "attempt" _ rfl).required (faithful_uint32 _),
    (told "usage" _ rfl).optional fun usage _ => usage.faithful,
    (told "contained_units" _ rfl).required (faithful_list fun unit _ => unit.faithful)]

/-! ## Records with doubles -/

theorem CoreInfo.faithful {core : CoreInfo} (finite : core.usagePercent.isFinite = true) :
    Faithful toJson ofJson? core := by
  refine .of_fields rfl (fun _ => rfl) (by decide) fun given told => ?_
  simp [fieldNames,
    (told "index" _ rfl).required (faithful_uint32 _),
    (told "model" _ rfl).required (faithful_text _),
    (told "vendor_id" _ rfl).required (faithful_text _),
    (told "mhz" _ rfl).required (faithful_uint64 _),
    (told "usage_percent" _ rfl).required (faithful_binary64 finite)]

theorem CpuSummary.faithful {cpu : CpuSummary} (finite : ∀ x ∈ cpu.doubles, x.isFinite = true) :
    Faithful toJson ofJson? cpu := by
  obtain ⟨all, each⟩ := List.forall_mem_cons.mp finite
  refine .of_fields rfl (fun _ => rfl) (by decide) fun given told => ?_
  simp [fieldNames,
    (told "usage_percent" _ rfl).required (faithful_binary64 all),
    (told "physical_cores" _ rfl).optional fun n _ => faithful_uint32 n,
    (told "cores" _ rfl).required
      (faithful_list fun _ isCore => CoreInfo.faithful (each _ (List.mem_map_of_mem isCore)))]

theorem MemoryInfo.faithful {memory : MemoryInfo} (finite : memory.usedPercent.isFinite = true) :
    Faithful toJson ofJson? memory := by
  refine .of_fields rfl (fun _ => rfl) (by decide) fun given told => ?_
  simp [fieldNames,
    (told "total" _ rfl).required (faithful_uint64 _),
    (told "available" _ rfl).required (faithful_uint64 _),
    (told "used" _ rfl).required (faithful_uint64 _),
    (told "free" _ rfl).required (faithful_uint64 _),
    (told "used_percent" _ rfl).required (faithful_binary64 finite)]

theorem DiskUsage.faithful {disk : DiskUsage} (finite : disk.usedPercent.isFinite = true) :
    Faithful toJson ofJson? disk := by
  refine .of_fields rfl (fun _ => rfl) (by decide) fun given told => ?_
  simp [fieldNames,
    (told "device" _ rfl).required (faithful_text _),
    (told "mountpoint" _ rfl).required (faithful_text _),
    (told "fstype" _ rfl).required (faithful_text _),
    (told "total" _ rfl).required (faithful_uint64 _),
    (told "free" _ rfl).required (faithful_uint64 _),
    (told "used" _ rfl).required (faithful_uint64 _),
    (told "used_percent" _ rfl).required (faithful_binary64 finite)]

theorem PressureLine.faithful {line : PressureLine}
    (finite : ∀ x ∈ line.doubles, x.isFinite = true) : Faithful toJson ofJson? line := by
  simp only [doubles, List.forall_mem_cons] at finite
  obtain ⟨avg10, avg60, avg300, -⟩ := finite
  refine .of_fields rfl (fun _ => rfl) (by decide) fun given told => ?_
  simp [fieldNames,
    (told "avg10" _ rfl).required (faithful_binary64 avg10),
    (told "avg60" _ rfl).required (faithful_binary64 avg60),
    (told "avg300" _ rfl).required (faithful_binary64 avg300),
    (told "total" _ rfl).required (faithful_uint64 _)]

theorem PressureReading.faithful {reading : PressureReading}
    (finite : ∀ x ∈ reading.doubles, x.isFinite = true) : Faithful toJson ofJson? reading := by
  simp only [doubles, List.forall_mem_append, List.forall_mem_flatMap, Option.mem_toList] at finite
  obtain ⟨someLine, fullLine⟩ := finite
  refine .of_fields rfl (fun _ => rfl) (by decide) fun given told => ?_
  simp [fieldNames,
    (told "some" _ rfl).required (PressureLine.faithful someLine),
    (told "full" _ rfl).optional fun line isLine => PressureLine.faithful (fullLine line isLine)]

theorem Pressure.faithful {pressure : Pressure}
    (finite : ∀ x ∈ pressure.doubles, x.isFinite = true) : Faithful toJson ofJson? pressure := by
  simp only [doubles, List.flatMap_append, List.forall_mem_append, List.forall_mem_flatMap,
    Option.mem_toList] at finite
  obtain ⟨⟨cpu, memory⟩, io⟩ := finite
  refine .of_fields rfl (fun _ => rfl) (by decide) fun given told => ?_
  simp [fieldNames,
    (told "cpu" _ rfl).optional fun reading isCpu => PressureReading.faithful (cpu reading isCpu),
    (told "memory" _ rfl).optional fun reading isMemory =>
      PressureReading.faithful (memory reading isMemory),
    (told "io" _ rfl).optional fun reading isIo => PressureReading.faithful (io reading isIo)]

theorem NodeRecord.faithful {node : NodeRecord}
    (finite : ∀ x ∈ node.doubles, x.isFinite = true) : Faithful toJson ofJson? node := by
  simp only [doubles, List.forall_mem_append, List.forall_mem_cons, List.forall_mem_map] at finite
  obtain ⟨⟨cpu, memory, disks⟩, pressure⟩ := finite
  refine .of_fields rfl (fun _ => rfl) (by decide) fun given told => ?_
  simp [fieldNames,
    (told "host" _ rfl).required node.host.faithful,
    (told "cpu" _ rfl).required (CpuSummary.faithful cpu),
    (told "memory" _ rfl).required (MemoryInfo.faithful memory),
    (told "disk_io" _ rfl).optional fun totals _ => totals.faithful,
    (told "disks" _ rfl).required
      (faithful_list fun disk isDisk => DiskUsage.faithful (disks disk isDisk)),
    (told "network" _ rfl).required node.network.faithful,
    (told "pressure" _ rfl).required (Pressure.faithful pressure),
    (told "top_memory" _ rfl).required (faithful_list fun process _ => process.faithful)]

namespace Snapshot

theorem faithful {snapshot : Snapshot} (finite : ∀ x ∈ snapshot.doubles, x.isFinite = true) :
    Faithful toJson ofJson? snapshot := by
  simp only [doubles, List.forall_mem_flatMap, Option.mem_toList] at finite
  refine .of_fields rfl (fun _ => rfl) (by decide) fun given told => ?_
  simp [fieldNames,
    (told "timestamp" _ rfl).required (faithful_int64 _),
    (told "node" _ rfl).optional fun node isNode => NodeRecord.faithful (finite node isNode),
    (told "units" _ rfl).required (faithful_list fun sandbox _ => sandbox.faithful)]

/-! ## The whole snapshot -/

/-- The trees of a snapshot's sandboxes. -/
theorem sandboxes_toJson (snapshot : Snapshot) :
    (snapshot.toJson.field "units").items = snapshot.sandboxes.map SandboxRecord.toJson := rfl

/-- Nothing of a snapshot is lost in its JSON form. -/
structure SurvivesJson (snapshot : Snapshot) : Prop where
  /-- The tree is read as the snapshot. -/
  returns : Snapshot.ofJson? snapshot.toJson = some snapshot
  /-- So is each tree that has the members in another order, leaves out what is absent or holds
  more than is asked for. -/
  conveyed : ∀ json, Conveys snapshot.toJson json → Snapshot.ofJson? json = some snapshot
  /-- No other snapshot whose doubles are finite has the tree. -/
  unambiguous : ∀ other : Snapshot, (∀ x ∈ other.doubles, x.isFinite = true) →
    other.toJson = snapshot.toJson → other = snapshot
  /-- The sandboxes stand in their order, each with its state by name. -/
  sandboxStates : (snapshot.toJson.field "units").items.map (·.field "state") =
    snapshot.sandboxes.map fun sandbox => .text sandbox.state.name
  /-- So do the containers of each sandbox. -/
  unitStates : (snapshot.toJson.field "units").items.map
      (fun sandbox => (sandbox.field "contained_units").items.map (·.field "state")) =
    snapshot.sandboxes.map fun sandbox => sandbox.units.map fun unit => .text unit.state.name

theorem survives_json {snapshot : Snapshot}
    (finite : ∀ x ∈ snapshot.doubles, x.isFinite = true) : snapshot.SurvivesJson where
  returns := (faithful finite).reads _ (.same _)
  conveyed := (faithful finite).reads
  unambiguous := by
    intro other alsoFinite same
    have returns : ofJson? other.toJson = some other := (faithful alsoFinite).reads _ (.same _)
    rw [same, (faithful finite).reads _ (.same _)] at returns
    exact (Option.some.inj returns).symm
  sandboxStates := by
    rw [sandboxes_toJson, List.map_map]
    rfl
  unitStates := by
    rw [sandboxes_toJson, List.map_map]
    refine List.map_congr_left fun sandbox _ => ?_
    exact List.map_map

/-- Numbers at the ends of their ranges, a negative zero, and zeros next to absent values. -/
def extremes : Snapshot where
  timestamp := -0x8000000000000000
  node := some {
    cpu := {
      usagePercent := ⟨0x8000000000000000⟩
      physicalCores := some 0
      cores := [⟨0xffffffff, "", "", 0xffffffffffffffff, ⟨0x7fefffffffffffff⟩⟩] }
    pressure := { io := some { fullLine := some {} } } }
  sandboxes :=
    [⟨"s", "", "", "", 0x7fffffffffffffff, .notReady, 0,
      some ⟨none, some ⟨-1, some 0, none, some 0x20000000000001, none, none, none⟩, none, some 0,
        none⟩,
      [⟨"c", "", "", -1, .exited, 0xffffffff, none, none, some ⟨0, some "", none, some 0⟩,
        some ⟨0, none, none⟩⟩]⟩,
    ⟨"", "", "", "", 0, .unknown, 0, none, []⟩]

theorem survives_json_extremes :
    (∀ x ∈ extremes.doubles, x.isFinite = true) ∧ extremes.SurvivesJson := by
  have finite : ∀ x ∈ extremes.doubles, x.isFinite = true := by decide +kernel
  exact ⟨finite, survives_json finite⟩

/-- An absent node may be left out, and a further member is passed over. -/
example :
    ofJson? (.object [("units", .list []), ("zone", .unreadable), ("timestamp", .whole 5)]) =
      some (bare 5) := by
  decide

end Snapshot

end NodeTelemetry
