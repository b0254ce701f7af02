/-
# Snapshots from their bytes

The relay's message flattens a snapshot and renames its fields, and what is written of it
leaves out defaults. Nothing gets lost on the way. From the message the snapshot is
recovered as it was, and from the bytes up to the signs of zeros, so snapshots with the
same bytes show the same readings: they are equal once the two zeros of a double are
identified, and its NaNs.
-/

import NodeTelemetry.Relay.OfSnapshot
import NodeTelemetry.Proofs.Protobuf.Doubles
import NodeTelemetry.Proofs.Protobuf.Unambiguous

namespace NodeTelemetry

/-! ## Readings -/

namespace Binary64

/-- What a double stands for: the zeros are one reading, and so are the NaNs. -/
def reading (x : Binary64) : Binary64 :=
  if x.isNaN then nan false else if x.isZero then zero else x

theorem isNaN_reading (x : Binary64) : x.reading.isNaN = x.isNaN := by
  unfold reading
  split
  · rename_i isNaN
    rw [isNaN]
    rfl
  · rename_i notNaN
    split
    · rw [Bool.eq_false_iff.mpr notNaN]
      rfl
    · rfl

theorem isZero_reading (x : Binary64) : x.reading.isZero = x.isZero := by
  unfold reading
  split
  · rename_i isNaN
    have notZero : x.magnitudeBits ≠ 0 := Nat.ne_zero_of_lt (of_decide_eq_true isNaN)
    exact (beq_eq_false_iff_ne.mpr notZero).symm
  · split
    · rename_i isZero
      rw [isZero]
      rfl
    · rfl

/-- Two doubles have the same reading if they are the same, zeros and NaNs apart. -/
theorem reading_eq_iff {x y : Binary64} : x.reading = y.reading ↔ x.sameReading y := by
  constructor
  · intro same
    have sameNaN : x.isNaN = y.isNaN := by rw [← isNaN_reading, same, isNaN_reading]
    have sameZero : x.isZero = y.isZero := by rw [← isZero_reading, same, isZero_reading]
    unfold reading at same
    unfold sameReading
    rw [← sameNaN, ← sameZero] at same ⊢
    cases isNaN : x.isNaN with
    | true => rfl
    | false =>
        cases isZero : x.isZero with
        | true => rfl
        | false => simpa [isNaN, isZero] using same
  · unfold sameReading
    rw [Bool.or_eq_true, Bool.or_eq_true, Bool.and_eq_true, Bool.and_eq_true, beq_iff_eq]
    rintro ((⟨isNaN, alsoNaN⟩ | ⟨isZero, alsoZero⟩) | rfl)
    · unfold reading
      rw [if_pos isNaN, if_pos alsoNaN]
    · have zeros : ∀ {z : Binary64}, z.isZero → z.reading = zero := by
        intro z isZero
        have notNaN : ¬z.isNaN := by
          rw [isNaN, eq_of_beq isZero]
          decide
        rw [reading, if_neg notNaN, if_pos isZero]
      rw [zeros isZero, zeros alsoZero]
    · rfl

/-- A zero that has lost its sign is the same reading. -/
theorem reading_unsignedZero (x : Binary64) : x.unsignedZero.reading = x.reading := by
  rw [reading_eq_iff]
  unfold unsignedZero sameReading
  split
  · rename_i isZero
    have zeros : (zero.isZero && x.isZero) = true := isZero
    rw [zeros, Bool.or_true, Bool.true_or]
  · rw [beq_self_eq_true, Bool.or_true]

end Binary64

section Doubles

variable (change : Binary64 → Binary64)

def PressureLine.mapDoubles (line : PressureLine) : PressureLine where
  avg10 := change line.avg10
  avg60 := change line.avg60
  avg300 := change line.avg300
  total := line.total

def PressureReading.mapDoubles (reading : PressureReading) : PressureReading where
  someLine := reading.someLine.mapDoubles change
  fullLine := reading.fullLine.map (·.mapDoubles change)

def CoreInfo.mapDoubles (core : CoreInfo) : CoreInfo :=
  { core with usagePercent := change core.usagePercent }

def DiskUsage.mapDoubles (disk : DiskUsage) : DiskUsage :=
  { disk with usedPercent := change disk.usedPercent }

def NodeRecord.mapDoubles (node : NodeRecord) : NodeRecord :=
  { node with
    cpu := { node.cpu with
      usagePercent := change node.cpu.usagePercent
      cores := node.cpu.cores.map (·.mapDoubles change) }
    memory := { node.memory with usedPercent := change node.memory.usedPercent }
    disks := node.disks.map (·.mapDoubles change)
    pressure :=
      { cpu := node.pressure.cpu.map (·.mapDoubles change)
        memory := node.pressure.memory.map (·.mapDoubles change)
        io := node.pressure.io.map (·.mapDoubles change) } }

/-- Change every double of a snapshot; only its node has any. -/
def Snapshot.mapDoubles (snapshot : Snapshot) : Snapshot :=
  { snapshot with node := snapshot.node.map (·.mapDoubles change) }

end Doubles

/-- A snapshot with the readings in the place of its doubles. -/
def Snapshot.readings (snapshot : Snapshot) : Snapshot := snapshot.mapDoubles Binary64.reading

section Composition

variable (first second : Binary64 → Binary64)

theorem PressureReading.mapDoubles_mapDoubles (reading : PressureReading) :
    (reading.mapDoubles first).mapDoubles second = reading.mapDoubles (second ∘ first) := by
  obtain ⟨someLine, _ | fullLine⟩ := reading <;> rfl

theorem NodeRecord.mapDoubles_mapDoubles (node : NodeRecord) :
    (node.mapDoubles first).mapDoubles second = node.mapDoubles (second ∘ first) := by
  have cores : (node.cpu.cores.map (·.mapDoubles first)).map (·.mapDoubles second) =
      node.cpu.cores.map (·.mapDoubles (second ∘ first)) := List.map_map
  have disks : (node.disks.map (·.mapDoubles first)).map (·.mapDoubles second) =
      node.disks.map (·.mapDoubles (second ∘ first)) := List.map_map
  have readings : ∀ reading : Option PressureReading,
      (reading.map (·.mapDoubles first)).map (·.mapDoubles second) =
        reading.map (·.mapDoubles (second ∘ first)) := by
    intro reading
    rw [Option.map_map]
    exact congrFun (congrArg Option.map (funext (PressureReading.mapDoubles_mapDoubles _ _))) _
  unfold mapDoubles
  simp only [cores, disks, readings, Function.comp_apply]

theorem Snapshot.mapDoubles_mapDoubles (snapshot : Snapshot) :
    (snapshot.mapDoubles first).mapDoubles second = snapshot.mapDoubles (second ∘ first) := by
  unfold mapDoubles
  rw [Option.map_map]
  exact congrArg (Snapshot.mk _ · _)
    (congrFun (congrArg Option.map (funext (NodeRecord.mapDoubles_mapDoubles _ _))) _)

end Composition

theorem Snapshot.readings_unsignedZero (snapshot : Snapshot) :
    (snapshot.mapDoubles Binary64.unsignedZero).readings = snapshot.readings := by
  unfold readings
  rw [mapDoubles_mapDoubles]
  exact congrArg (mapDoubles · snapshot) (funext Binary64.reading_unsignedZero)

namespace Relay

open Protobuf Messages

/-! ## From the message -/

theorem readingOf?_psiMetricsOf (reading : PressureReading) :
    readingOf? (psiMetricsOf reading) = some reading := by
  obtain ⟨someLine, _ | fullLine⟩ := reading <;> rfl

/-- What can be recovered can be recovered where it may be absent. -/
theorem presentOr?_map {α β : Type} {read : α → Option β} {write : β → α}
    (recovers : ∀ value, read (write value) = some value) (value : Option β) :
    presentOr? read (value.map write) = some value := by
  cases value with
  | none => rfl
  | some value => exact congrArg (Option.map some) (recovers value)

theorem mapM_map {α β : Type} {read : α → Option β} {write : β → α}
    (recovers : ∀ value, read (write value) = some value) (values : List β) :
    (values.map write).mapM read = some values := by
  induction values with
  | nil => rfl
  | cons value values ih =>
      rw [List.map_cons, List.mapM_cons, recovers, ih]
      rfl

theorem nodeOf?_nodeMetricsOf (node : NodeRecord) : nodeOf? (nodeMetricsOf node) = some node := by
  have cores : coreOf ∘ cpuInfoOf = id := rfl
  have interfaces : interfaceOf ∘ interfaceStatOf = id := rfl
  have disks : diskOf ∘ diskUsageOf = id := rfl
  have diskTotals : diskTotalsOf ∘ diskIoSummaryOf = id := rfl
  have topMemory : processOf ∘ processMemInfoOf = id := rfl
  simp only [nodeOf?, nodeMetricsOf, presentOr?_map readingOf?_psiMetricsOf, Option.bind_eq_bind,
    Option.bind_some, Option.pure_def, List.map_map, Option.map_map, cores, interfaces, disks,
    diskTotals, topMemory, List.map_id, Option.map_id, id_eq]
  rfl

theorem sandboxStateOf?_podStateOf (state : SandboxState) :
    sandboxStateOf? (podStateOf state) = some state := by
  cases state <;> rfl

theorem unitStateOf?_containerStateOf (state : UnitState) :
    unitStateOf? (containerStateOf state) = some state := by
  cases state <;> rfl

theorem cpuUsageOf_comp : cpuUsageOf ∘ cpuMetricsOf = id := rfl

theorem memoryUsageOf_comp : memoryUsageOf ∘ memoryMetricsOf = id := rfl

theorem unitOf?_containerMetricsOf (unit : UnitRecord) :
    unitOf? (containerMetricsOf unit) = some unit := by
  have filesystem : filesystemUsageOf ∘ fileSystemMetricsOf = id := rfl
  have swap : swapUsageOf ∘ swapMetricsOf = id := rfl
  simp only [unitOf?, containerMetricsOf, unitStateOf?_containerStateOf, Option.bind_eq_bind,
    Option.bind_some, Option.pure_def, Option.map_map, cpuUsageOf_comp, memoryUsageOf_comp,
    filesystem, swap, Option.map_id, id_eq]

theorem sandboxUsageOf_comp : sandboxUsageOf ∘ podUsageOf = id := by
  funext usage
  simp only [Function.comp_apply, sandboxUsageOf, podUsageOf, Option.map_map, cpuUsageOf_comp,
    memoryUsageOf_comp, Option.map_id, id_eq]

theorem sandboxOf?_podMetricsOf (sandbox : SandboxRecord) :
    sandboxOf? (podMetricsOf sandbox) = some sandbox := by
  simp only [sandboxOf?, podMetricsOf, sandboxStateOf?_podStateOf,
    mapM_map unitOf?_containerMetricsOf, Option.bind_eq_bind, Option.bind_some, Option.pure_def,
    Option.map_map, sandboxUsageOf_comp, Option.map_id, id_eq]

/-- A snapshot is recovered from its message. -/
theorem snapshotOf?_metricsOf (snapshot : Snapshot) :
    snapshotOf? (metricsOf snapshot) = some snapshot := by
  simp only [snapshotOf?, metricsOf, presentOr?_map nodeOf?_nodeMetricsOf,
    mapM_map sandboxOf?_podMetricsOf, Option.bind_eq_bind, Option.bind_some, Option.pure_def]

/-! ## From the bytes -/

section Doubles

variable (change : Binary64 → Binary64)

theorem psiMetrics_mapDoubles (reading : PressureReading) :
    psiMetrics.mapDoubles change (psiMetricsOf reading) =
      psiMetricsOf (reading.mapDoubles change) := by
  obtain ⟨someLine, _ | fullLine⟩ := reading <;> rfl

/-- Each double of a node is a plain double of its message, and the other way round. -/
theorem nodeMetrics_mapDoubles (node : NodeRecord) :
    nodeMetrics.mapDoubles change (nodeMetricsOf node) =
      nodeMetricsOf (node.mapDoubles change) := by
  have readings : psiMetrics.mapDoubles change ∘ psiMetricsOf =
      psiMetricsOf ∘ (·.mapDoubles change) := funext (psiMetrics_mapDoubles change)
  dsimp only [nodeMetrics, Schema.mapDoubles, Field.mapDoubles, Scalar.mapDouble, nodeMetricsOf,
    NodeRecord.mapDoubles]
  simp only [List.map_map, Option.map_map, readings]
  rfl

end Doubles

/-- What is read where a snapshot was written: the message of the snapshot without the signs
of zeros. -/
theorem metrics_canonical (snapshot : Snapshot) :
    metrics.canonical (metricsOf snapshot) =
      metricsOf (snapshot.mapDoubles Binary64.unsignedZero) := by
  have timestamp : (Field.plain .int64).canonical = id := Field.canonical_of_exact (by decide)
  have pods : (Field.many podMetrics).canonical = id := Field.canonical_of_exact (by decide)
  have nodes : nodeMetrics.canonical ∘ nodeMetricsOf =
      nodeMetricsOf ∘ (·.mapDoubles Binary64.unsignedZero) := by
    rw [nodeMetrics.canonical_eq_mapDoubles]
    exact funext (nodeMetrics_mapDoubles Binary64.unsignedZero)
  change ((Field.plain .int64).canonical snapshot.timestamp,
    (snapshot.node.map nodeMetricsOf).map nodeMetrics.canonical,
    (Field.many podMetrics).canonical (snapshot.sandboxes.map podMetricsOf), ()) = _
  rw [timestamp, pods, Option.map_map, nodes, ← Option.map_map]
  rfl

/-- A snapshot is recovered from its bytes, and its zeros have lost their signs. -/
theorem snapshotOfBytes?_bytesOf {snapshot : Snapshot}
    (fits : (bytesOf snapshot).length < wireBound) :
    snapshotOfBytes? (bytesOf snapshot) =
      some (snapshot.mapDoubles Binary64.unsignedZero) := by
  have read := metrics.read?_write (by decide) (by decide) (metricsOf snapshot) fits
  rw [metrics_canonical] at read
  change (metrics.read? (metrics.write (metricsOf snapshot))).bind snapshotOf? = _
  rw [read, Option.bind_some, snapshotOf?_metricsOf]

/-- Snapshots with the same bytes differ in the signs of zeros at most. -/
theorem unsignedZero_eq_of_bytesOf_eq {snapshot other : Snapshot}
    (same : bytesOf snapshot = bytesOf other) :
    snapshot.mapDoubles Binary64.unsignedZero = other.mapDoubles Binary64.unsignedZero := by
  have messages := metrics.write_inj (by decide) same
  rw [metrics_canonical, metrics_canonical] at messages
  have recovered := congrArg snapshotOf? messages
  rw [snapshotOf?_metricsOf, snapshotOf?_metricsOf] at recovered
  exact Option.some.inj recovered

/-- The bytes of a snapshot tell it from every other, up to what its doubles are as readings;
and unless they are too many for their number to be written, the snapshot is read back from
them. -/
theorem bytes_lose_nothing (snapshot : Snapshot) :
    (∀ other, bytesOf other = bytesOf snapshot → other.readings = snapshot.readings) ∧
      ((bytesOf snapshot).length < wireBound →
        ∃ recovered, snapshotOfBytes? (bytesOf snapshot) = some recovered ∧
          recovered.readings = snapshot.readings) := by
  refine ⟨fun other same => ?_, fun fits => ?_⟩
  · rw [← other.readings_unsignedZero, unsignedZero_eq_of_bytesOf_eq same,
      snapshot.readings_unsignedZero]
  · exact ⟨_, snapshotOfBytes?_bytesOf fits, snapshot.readings_unsignedZero⟩

/-- A snapshot of a node with the given usage of the processors, and of a container with a
facet of which nothing is known. -/
def sparse (usagePercent : Binary64) : Snapshot where
  timestamp := -1
  node := some { cpu := { usagePercent }, pressure := { io := some {} } }
  sandboxes :=
    [⟨"s", "", "", "", 0, .notReady, 0, none,
      [⟨"c", "", "", -1, .unknown, 0, none, some ⟨0, none, some 0, none, none, none, none⟩, none,
        none⟩]⟩]

theorem bytes_lose_nothing_sparse :
    bytesOf (sparse .zero) = bytesOf (sparse ⟨0x8000000000000000⟩) ∧
      (sparse .zero).readings = (sparse ⟨0x8000000000000000⟩).readings ∧
      (bytesOf (sparse ⟨0x8000000000000000⟩)).length < wireBound ∧
      ∃ recovered, snapshotOfBytes? (bytesOf (sparse ⟨0x8000000000000000⟩)) = some recovered ∧
        recovered.readings = (sparse ⟨0x8000000000000000⟩).readings := by
  have same : bytesOf (sparse .zero) = bytesOf (sparse ⟨0x8000000000000000⟩) := by
    decide +kernel
  have fits : (bytesOf (sparse ⟨0x8000000000000000⟩)).length < wireBound := by
    decide +kernel
  obtain ⟨unambiguous, recovers⟩ := bytes_lose_nothing (sparse ⟨0x8000000000000000⟩)
  exact ⟨same, unambiguous _ same, fits, recovers fits⟩

end Relay

end NodeTelemetry
