/-
# Joining the listings

The four listings of one collection are joined into sandbox records. Sandboxes keep
the order of their list. Containers are grouped under their sandbox in the order of
their list, and each is joined to the statistics with its id; of several statistics
with one id the last counts. A listing that failed counts as empty, with one
exception: without container statistics no container is recorded and none is reported
as missing, because the failure itself is already reported.

The join runs over indexes by id. A group of containers is taken out of its index when
its sandbox is met, so a second sandbox with the same id gets none, and what is left in
the end belongs to no listed sandbox.
-/

import NodeTelemetry.Fault
import NodeTelemetry.Inventory.Listing
import Std.Data.HashMap

namespace NodeTelemetry.Inventory

/-- The answers to the four queries; `none` is a query that failed. -/
structure Listings where
  sandboxes : Option (List Sandbox)
  sandboxStats : Option (List SandboxStats)
  containers : Option (List Container)
  containerStats : Option (List ContainerStats)

/-! ## Records of joined listings -/

/-- The runtime numbers sandbox states from zero. -/
def sandboxStateOf (state : Int32) : SandboxState :=
  if state = 0 then .ready else if state = 1 then .notReady else .unknown

/-- The runtime numbers container states from zero. -/
def unitStateOf (state : Int32) : UnitState :=
  if state = 0 then .created
  else if state = 1 then .running
  else if state = 2 then .exited
  else .unknown

/-- A mountpoint without a name is none. -/
def WritableLayer.usage (layer : WritableLayer) : FilesystemUsage where
  timestamp := layer.timestamp
  mountpoint := layer.mountpoint.filter fun mountpoint => mountpoint ≠ ""
  usedBytes := layer.usedBytes
  inodesUsed := layer.inodesUsed

def LinuxStats.usage (stats : LinuxStats) : SandboxUsage where
  cpu := stats.cpu
  memory := stats.memory
  networkRxBytes := stats.defaultInterface.bind (·.rxBytes)
  networkTxBytes := stats.defaultInterface.bind (·.txBytes)
  processCount := stats.processCount

/-- The image as it was asked for, or else the image that runs. -/
def Container.imageName (container : Container) : String :=
  (container.image.filter fun image => image ≠ "").getD container.imageRef

def Container.record (container : Container) (stats : ContainerStats) : UnitRecord where
  id := container.id
  name := (container.metadata.map (·.name)).getD ""
  image := container.imageName
  createdAt := container.createdAt
  state := unitStateOf container.state
  attempt := (container.metadata.map (·.attempt)).getD 0
  cpu := stats.cpu
  memory := stats.memory
  filesystem := stats.writableLayer.map WritableLayer.usage
  swap := stats.swap

def Sandbox.record (sandbox : Sandbox) (usage : Option SandboxUsage) (units : List UnitRecord) :
    SandboxRecord where
  id := sandbox.id
  uid := (sandbox.metadata.map (·.uid)).getD ""
  name := (sandbox.metadata.map (·.name)).getD ""
  podNamespace := (sandbox.metadata.map (·.podNamespace)).getD ""
  createdAt := sandbox.createdAt
  state := sandboxStateOf sandbox.state
  attempt := (sandbox.metadata.map (·.attempt)).getD 0
  usage := usage
  units := units

/-- A container of a listed sandbox without statistics. -/
def missingStats (container : Container) (sandbox : Sandbox) : Fault :=
  .correlationMiss container.id sandbox.id .stats

/-- A container whose sandbox is not listed. -/
def missingSandbox (container : Container) : Fault :=
  .correlationMiss container.id container.sandboxId .sandbox

/-! ## Indexes -/

/-- Containers by the id of their sandbox, in the order of their list. -/
abbrev Groups := Std.HashMap String (Array Container)

def groupBySandbox (containers : List Container) : Groups :=
  containers.foldl
    (fun groups container =>
      groups.insert container.sandboxId
        ((groups.getD container.sandboxId #[]).push container))
    ∅

/-- Statistics by the id of their owner, the last for each id. Statistics without an
owner are left out. -/
def indexByOwner (owner : α → Option String) (stats : List α) : Std.HashMap String α :=
  stats.foldl
    (fun index entry =>
      match owner entry with
      | none => index
      | some id => index.insert id entry)
    ∅

/-! ## The join -/

/-- The containers of one sandbox with their statistics, and those without. -/
def joinUnits (stats : Std.HashMap String ContainerStats) (sandbox : Sandbox) :
    List Container → List UnitRecord × List Fault
  | [] => ([], [])
  | container :: rest =>
    let (units, faults) := joinUnits stats sandbox rest
    match stats[container.id]? with
    | some entry => (container.record entry :: units, faults)
    | none => (units, missingStats container sandbox :: faults)

/-- The records of the sandboxes, the containers without statistics, and the groups
that no sandbox took. -/
def joinSandboxes (usage : Std.HashMap String SandboxStats)
    (stats : Option (Std.HashMap String ContainerStats)) :
    List Sandbox → Groups → List SandboxRecord × List Fault × Groups
  | [], groups => ([], [], groups)
  | sandbox :: rest, groups =>
    let own := (usage[sandbox.id]?.bind (·.linux)).map LinuxStats.usage
    match stats with
    | none =>
      let (records, faults, left) := joinSandboxes usage stats rest groups
      (sandbox.record own [] :: records, faults, left)
    | some index =>
      let (units, misses) := joinUnits index sandbox (groups.getD sandbox.id #[]).toList
      let (records, faults, left) := joinSandboxes usage stats rest (groups.erase sandbox.id)
      (sandbox.record own units :: records, misses ++ faults, left)

/-- Join the listings. Containers of sandboxes that are not listed are reported only on
demand: a listing by state leaves sandboxes out that do exist. -/
def join (listings : Listings) (reportOrphans : Bool) : List SandboxRecord × List Fault :=
  let containers := listings.containers.getD []
  let (records, faults, left) :=
    joinSandboxes (indexByOwner SandboxStats.owner (listings.sandboxStats.getD []))
      (listings.containerStats.map (indexByOwner ContainerStats.owner))
      (listings.sandboxes.getD []) (groupBySandbox containers)
  let orphans :=
    if reportOrphans && listings.sandboxes.isSome && listings.containerStats.isSome then
      (containers.filter fun container => left.contains container.sandboxId).map missingSandbox
    else []
  (records, faults ++ orphans)

end NodeTelemetry.Inventory
