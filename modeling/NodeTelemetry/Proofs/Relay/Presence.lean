/-
# Absent and zero on the way to the relay

A counter that the runtime did not measure is not the same as one that is zero. The
runtime wraps its counters, a record holds a value that may be absent, and the relay's
message has an optional field; what is decoded from the bytes of a snapshot shows a
counter if and only if the runtime measured it, with the value that it measured. Facets
of usage are there if and only if the runtime's message has them, and a mountpoint if and
only if it has a name.
-/

import Mathlib.Data.List.Forall2
import Mathlib.Data.Option.Defs
import NodeTelemetry.Relay.OfSnapshot
import NodeTelemetry.Proofs.Inventory.Records
import NodeTelemetry.Proofs.Protobuf.RoundTrip

namespace NodeTelemetry.Relay

open Protobuf Messages
open Inventory (joined? join Listings SandboxStats ContainerStats)
open Inventory.Messages (wrappedCounter cpuUsage memoryUsage filesystemUsage swapUsage
  filesystemIdentifier networkUsage processUsage linuxPodSandboxStats podSandboxStats
  containerStats podSandbox container)

/-! ## Counters -/

/-- A counter is shown if and only if it was measured, with the measured value. -/
def CounterKept (measured : Option wrappedCounter.Record) (shown : Option UInt64) : Prop :=
  ∀ value, shown = some value ↔ measured = some (value, ())

/-- A mountpoint is shown if and only if it has a name. -/
def MountpointKept (known : Option filesystemIdentifier.Record) (shown : Option String) : Prop :=
  ∀ mountpoint, shown = some mountpoint ↔ known = some (mountpoint, ()) ∧ mountpoint ≠ ""

def CpuKept : cpuUsage.Record → cpuMetrics.Record → Prop
  | (_, coreNanoSeconds, nanoCores, ()), (_, shownCoreNanoSeconds, shownNanoCores, ()) =>
    CounterKept coreNanoSeconds shownCoreNanoSeconds ∧ CounterKept nanoCores shownNanoCores

def MemoryKept : memoryUsage.Record → memoryMetrics.Record → Prop
  | (_, workingSet, available, usage, rss, pageFaults, majorPageFaults, ()),
    (_, shownWorkingSet, shownAvailable, shownUsage, shownRss, shownPageFaults,
      shownMajorPageFaults, ()) =>
    CounterKept workingSet shownWorkingSet ∧ CounterKept available shownAvailable ∧
      CounterKept usage shownUsage ∧ CounterKept rss shownRss ∧
      CounterKept pageFaults shownPageFaults ∧ CounterKept majorPageFaults shownMajorPageFaults

def FilesystemKept : filesystemUsage.Record → fileSystemMetrics.Record → Prop
  | (_, identifier, usedBytes, inodesUsed, ()),
    (_, shownMountpoint, shownUsedBytes, shownInodesUsed, ()) =>
    MountpointKept identifier shownMountpoint ∧ CounterKept usedBytes shownUsedBytes ∧
      CounterKept inodesUsed shownInodesUsed

def SwapKept : swapUsage.Record → swapMetrics.Record → Prop
  | (_, available, usage, ()), (_, shownAvailable, shownUsage, ()) =>
    CounterKept available shownAvailable ∧ CounterKept usage shownUsage

/-! ## Usage -/

/-- What was received over the default interface. -/
def received? : networkUsage.Record → Option wrappedCounter.Record
  | (_, some (_, received, _, _, _, ()), _, ()) => received
  | (_, none, _, ()) => none

/-- What was sent over the default interface. -/
def sent? : networkUsage.Record → Option wrappedCounter.Record
  | (_, some (_, _, _, sent, _, ()), _, ()) => sent
  | (_, none, _, ()) => none

def processCount? : processUsage.Record → Option wrappedCounter.Record
  | (_, processCount, ()) => processCount

def UsageKept : linuxPodSandboxStats.Record → podUsage.Record → Prop
  | (cpu, memory, network, process, ()),
    (shownCpu, shownMemory, shownReceived, shownSent, shownProcessCount, ()) =>
    Option.Rel CpuKept cpu shownCpu ∧ Option.Rel MemoryKept memory shownMemory ∧
      CounterKept (network.bind received?) shownReceived ∧
      CounterKept (network.bind sent?) shownSent ∧
      CounterKept (process.bind processCount?) shownProcessCount

def UnitUsageKept : containerStats.Record → containerMetrics.Record → Prop
  | (_, cpu, memory, writableLayer, swap, ()),
    (_, _, _, _, _, _, shownCpu, shownMemory, shownFilesystem, shownSwap, ()) =>
    Option.Rel CpuKept cpu shownCpu ∧ Option.Rel MemoryKept memory shownMemory ∧
      Option.Rel FilesystemKept writableLayer shownFilesystem ∧ Option.Rel SwapKept swap shownSwap

/-! ## Inventories -/

/-- The answers of the runtime to the four queries, as they came; `none` is a query that
failed. -/
structure RuntimeAnswers where
  sandboxes : Option (List podSandbox.Record)
  sandboxStats : Option (List podSandboxStats.Record)
  containers : Option (List container.Record)
  containerStats : Option (List containerStats.Record)

namespace RuntimeAnswers

variable (answers : RuntimeAnswers)

def listings : Listings where
  sandboxes := answers.sandboxes.map (·.map Inventory.sandboxOf)
  sandboxStats := answers.sandboxStats.map (·.map Inventory.sandboxStatsOf)
  containers := answers.containers.map (·.map Inventory.containerOf)
  containerStats := answers.containerStats.map (·.map Inventory.containerStatsOf)

/-- The usage that the runtime reports for the sandbox with the given id. -/
def sandboxUsage? (id : String) : Option linuxPodSandboxStats.Record :=
  (joined? (fun stats => stats.1.map (·.1)) (answers.sandboxStats.getD []) id).bind (·.2.1)

/-- The statistics that the runtime reports for the container with the given id. -/
def unitStats? (id : String) : Option Inventory.Messages.containerStats.Record :=
  joined? (fun stats => stats.1.map (·.1)) (answers.containerStats.getD []) id

/-- A container is shown with the usage that the runtime reports for it. -/
def UnitKept (unit : UnitRecord) (shown : containerMetrics.Record) : Prop :=
  shown.1 = unit.id ∧ ∃ stats, answers.unitStats? unit.id = some stats ∧
    UnitUsageKept stats shown

/-- A sandbox is shown with the usage that the runtime reports for it, and so are its
containers. -/
def SandboxKept (record : SandboxRecord) : podMetrics.Record → Prop
  | (id, _, _, _, _, _, _, containers, usage, ()) =>
    id = record.id ∧ Option.Rel UsageKept (answers.sandboxUsage? record.id) usage ∧
      List.Forall₂ answers.UnitKept record.units containers

end RuntimeAnswers

/-! ## What is kept -/

theorem counterKept (measured : Option wrappedCounter.Record) :
    CounterKept measured (measured.map Inventory.counterOf) := by
  intro value
  cases measured with
  | none => exact ⟨nofun, nofun⟩
  | some counter =>
      constructor
      · rintro ⟨⟩
        rfl
      · rintro ⟨⟩
        rfl

/-- A facet that is recorded and then shown is there if and only if it was reported. -/
theorem facetKept {α β γ : Type} {Kept : α → γ → Prop} {recorded : α → β} {shown : β → γ}
    (kept : ∀ facet, Kept facet (shown (recorded facet))) (facet : Option α) :
    Option.Rel Kept facet ((facet.map recorded).map shown) := by
  cases facet with
  | none => exact .none
  | some facet => exact .some (kept facet)

theorem mountpointKept (identifier : Option filesystemIdentifier.Record) :
    MountpointKept identifier
      ((identifier.map (·.1)).filter fun mountpoint => mountpoint ≠ "") := by
  intro mountpoint
  rw [Option.filter_eq_some_iff, decide_eq_true_iff]
  refine and_congr_left fun _ => ?_
  cases identifier with
  | none => exact ⟨nofun, nofun⟩
  | some identifier =>
      constructor
      · rintro ⟨⟩
        rfl
      · rintro ⟨⟩
        rfl

theorem cpuKept (stats : cpuUsage.Record) :
    CpuKept stats (cpuMetricsOf (Inventory.cpuUsageOf stats)) :=
  ⟨counterKept _, counterKept _⟩

theorem memoryKept (stats : memoryUsage.Record) :
    MemoryKept stats (memoryMetricsOf (Inventory.memoryUsageOf stats)) :=
  ⟨counterKept _, counterKept _, counterKept _, counterKept _, counterKept _, counterKept _⟩

theorem filesystemKept (stats : filesystemUsage.Record) :
    FilesystemKept stats (fileSystemMetricsOf (Inventory.writableLayerOf stats).usage) :=
  ⟨mountpointKept _, counterKept _, counterKept _⟩

theorem swapKept (stats : swapUsage.Record) :
    SwapKept stats (swapMetricsOf (Inventory.swapUsageOf stats)) :=
  ⟨counterKept _, counterKept _⟩

theorem receivedKept (network : Option networkUsage.Record) :
    CounterKept (network.bind received?)
      ((network.bind Inventory.defaultInterfaceOf).bind (·.rxBytes)) := by
  obtain _ | ⟨_, _ | _, _, _⟩ := network
  · exact counterKept none
  · exact counterKept none
  · exact counterKept _

theorem sentKept (network : Option networkUsage.Record) :
    CounterKept (network.bind sent?)
      ((network.bind Inventory.defaultInterfaceOf).bind (·.txBytes)) := by
  obtain _ | ⟨_, _ | _, _, _⟩ := network
  · exact counterKept none
  · exact counterKept none
  · exact counterKept _

theorem processCountKept (process : Option processUsage.Record) :
    CounterKept (process.bind processCount?) (process.bind Inventory.processCountOf) := by
  cases process with
  | none => exact counterKept none
  | some process => exact counterKept _

theorem usageKept (stats : linuxPodSandboxStats.Record) :
    UsageKept stats (podUsageOf (Inventory.linuxStatsOf stats).usage) := by
  obtain ⟨cpu, memory, network, process, -⟩ := stats
  exact ⟨facetKept cpuKept cpu, facetKept memoryKept memory, receivedKept network,
    sentKept network, processCountKept process⟩

theorem unitUsageKept (container : Inventory.Container) (stats : containerStats.Record) :
    UnitUsageKept stats
      (containerMetricsOf (container.record (Inventory.containerStatsOf stats))) := by
  obtain ⟨_, cpu, memory, layer, swap, -⟩ := stats
  have layerKept : Option.Rel FilesystemKept layer
      (((layer.map Inventory.writableLayerOf).map (·.usage)).map fileSystemMetricsOf) := by
    rw [Option.map_map]
    refine facetKept (fun stats => ?_) layer
    exact filesystemKept stats
  exact ⟨facetKept cpuKept cpu, facetKept memoryKept memory, layerKept, facetKept swapKept swap⟩

/-! ## Snapshots on the wire -/

/-- The message that a snapshot's bytes are decoded to. -/
theorem read?_bytesOf {snapshot : Snapshot} (fits : (bytesOf snapshot).length < wireBound) :
    ∃ node, metrics.read? (bytesOf snapshot) =
      some (snapshot.timestamp, node, snapshot.sandboxes.map podMetricsOf, ()) := by
  have timestamp : (Field.plain .int64).canonical = id := Field.canonical_of_exact (by decide)
  have pods : (Field.many podMetrics).canonical = id := Field.canonical_of_exact (by decide)
  refine ⟨(snapshot.node.map nodeMetricsOf).map nodeMetrics.canonical, ?_⟩
  rw [bytesOf, metrics.read?_write (by decide) (by decide) (metricsOf snapshot) fits]
  change some ((Field.plain .int64).canonical snapshot.timestamp, _,
    (Field.many podMetrics).canonical (snapshot.sandboxes.map podMetricsOf), ()) = _
  rw [timestamp, pods]
  rfl

namespace RuntimeAnswers

variable (answers : RuntimeAnswers)

theorem joined?_sandboxStats (id : String) :
    (joined? SandboxStats.owner (answers.listings.sandboxStats.getD []) id).bind (·.linux) =
      (answers.sandboxUsage? id).map Inventory.linuxStatsOf := by
  have listed : answers.listings.sandboxStats.getD [] =
      (answers.sandboxStats.getD []).map Inventory.sandboxStatsOf :=
    Option.getD_map _ [] _
  rw [listed, Inventory.joined?_map]
  unfold sandboxUsage?
  rw [Option.bind_map, Option.map_bind]
  rfl

theorem joined?_containerStats (id : String) :
    joined? ContainerStats.owner (answers.listings.containerStats.getD []) id =
      (answers.unitStats? id).map Inventory.containerStatsOf := by
  have listed : answers.listings.containerStats.getD [] =
      (answers.containerStats.getD []).map Inventory.containerStatsOf :=
    Option.getD_map _ [] _
  rw [listed, Inventory.joined?_map]
  rfl

/-- A record of the join is shown with what the runtime reports for it. -/
theorem sandboxKept {record : SandboxRecord} (made : Inventory.IsRecord
      (answers.listings.sandboxStats.getD []) (answers.listings.containerStats.getD []) record) :
    answers.SandboxKept record (podMetricsOf record) := by
  refine ⟨rfl, ?_, ?_⟩
  · rw [made.usage, joined?_sandboxStats]
    rw [Option.map_map]
    refine facetKept (fun stats => ?_) _
    exact usageKept stats
  · refine List.forall₂_map_right_iff.mpr (List.forall₂_same.mpr fun unit member => ⟨rfl, ?_⟩)
    obtain ⟨container, stats, joined, rfl⟩ := made.units unit member
    rw [joined?_containerStats] at joined
    obtain ⟨reported, found, rfl⟩ := Option.map_eq_some_iff.mp joined
    exact ⟨reported, found, unitUsageKept container reported⟩

end RuntimeAnswers

/-- What the runtime measured and nothing else is on the wire, for every sandbox and every
container that the join records. A message longer than any memory has no length that could
be written. -/
theorem absent_stays_absent (answers : RuntimeAnswers) (reportOrphans : Bool)
    (timestamp : Int64) (node : Option NodeRecord)
    (fits : (bytesOf ⟨timestamp, node, (join answers.listings reportOrphans).1⟩).length <
      wireBound) :
    ∃ shownNode pods,
      metrics.read? (bytesOf ⟨timestamp, node, (join answers.listings reportOrphans).1⟩) =
        some (timestamp, shownNode, pods, ()) ∧
      List.Forall₂ answers.SandboxKept (join answers.listings reportOrphans).1 pods := by
  obtain ⟨shownNode, decoded⟩ := read?_bytesOf fits
  refine ⟨shownNode, _, decoded, ?_⟩
  refine List.forall₂_map_right_iff.mpr (List.forall₂_same.mpr fun record member => ?_)
  exact answers.sandboxKept (Inventory.isRecord_join member)

/-- A sandbox and a container of which two counters are measured, one at zero and one at the
largest number. -/
def barelyMeasured : RuntimeAnswers where
  sandboxes := some [("s", none, 0, 0, ())]
  sandboxStats :=
    some [(some ("s", none, ()),
      some (some (7, some (0, ()), none, ()), none, none, none, ()), ())]
  containers := some [("c", "s", none, none, "image", 1, 0, ())]
  containerStats :=
    some [(some ("c", none, ()), none, none, none,
      some (7, some (0xFFFFFFFFFFFFFFFF, ()), none, ()), ())]

/-- What is recorded of it. -/
def barelyMeasuredRecord : SandboxRecord where
  id := "s"
  uid := ""
  name := ""
  podNamespace := ""
  createdAt := 0
  state := .ready
  attempt := 0
  usage := some ⟨some ⟨7, some 0, none⟩, none, none, none, none⟩
  units :=
    [⟨"c", "", "image", 0, .running, 0, none, none, none,
      some ⟨7, some 0xFFFFFFFFFFFFFFFF, none⟩⟩]

theorem join_barelyMeasured :
    (join barelyMeasured.listings true).1 = [barelyMeasuredRecord] := by
  have listings : barelyMeasured.listings =
      { sandboxes := some [⟨"s", none, 0, 0⟩]
        sandboxStats := some [⟨some "s", some ⟨some ⟨7, some 0, none⟩, none, none, none⟩⟩]
        containers := some [⟨"c", "s", none, none, "image", 1, 0⟩]
        containerStats :=
          some [⟨some "c", none, none, none, some ⟨7, some 0xFFFFFFFFFFFFFFFF, none⟩⟩] } := rfl
  rw [listings]
  simp [join, Inventory.joinSandboxes, Inventory.joinUnits, Inventory.groupBySandbox,
    Inventory.indexByOwner]
  rfl

theorem absent_stays_absent_barelyMeasured :
    (join barelyMeasured.listings true).1 = [barelyMeasuredRecord] ∧
    (bytesOf ⟨0, none, (join barelyMeasured.listings true).1⟩).length < wireBound ∧
    ∃ shownNode pods,
      metrics.read? (bytesOf ⟨0, none, (join barelyMeasured.listings true).1⟩) =
        some (0, shownNode, pods, ()) ∧
      List.Forall₂ barelyMeasured.SandboxKept (join barelyMeasured.listings true).1 pods := by
  have fits : (bytesOf ⟨0, none, (join barelyMeasured.listings true).1⟩).length < wireBound := by
    rw [join_barelyMeasured]
    decide +kernel
  exact ⟨join_barelyMeasured, fits, absent_stays_absent barelyMeasured true 0 none fits⟩

end NodeTelemetry.Relay
