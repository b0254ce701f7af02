/-
# The journal

Collecting and delivering leave a journal: what happened, in order, each entry with the
nanosecond at which it happened. Metrics, log lines and health reports are read off
the journal. Some entries show up in none of them and are kept because the others
cannot be understood without them, such as that a send has begun.
-/

import NodeTelemetry.Duration
import NodeTelemetry.Health.Registry
import NodeTelemetry.Log.Notice
import NodeTelemetry.Metrics.Basic
import NodeTelemetry.Snapshot.Basic

namespace NodeTelemetry

/-- What a finished collection is known by. -/
structure CollectionSummary where
  sandboxes : Nat
  containers : Nat
  faults : List Fault
  /-- Nanoseconds that the collection took. -/
  elapsed : Nat
  /-- Snapshots in the backlog once this one was added. -/
  waiting : Nat
  capacity : Nat
  deriving DecidableEq

/-- Things that happen. -/
inductive Event where
  /-- A collection began; the collections of a run are numbered from zero. -/
  | collecting (index : Nat)
  /-- A collection ended with this fault, among others. -/
  | faulted (fault : Fault)
  | collected (summary : CollectionSummary)
  /-- A running collection was given up. -/
  | discarded (index : Nat)
  /-- A new snapshot was put at the end of the backlog. -/
  | arrived (snapshot : Snapshot)
  /-- A new snapshot was handed to the delivery directly. -/
  | handedOver (snapshot : Snapshot)
  /-- A snapshot that was handed over and not sent was put at the end of the backlog. -/
  | kept (snapshot : Snapshot)
  /-- A snapshot was lost, and that was reported. -/
  | dropped (snapshot : Snapshot) (reason : Log.DropReason)
  /-- A snapshot had to leave the backlog and was given to whoever caused that. -/
  | displaced (snapshot : Snapshot)
  /-- Somebody else took the oldest snapshot out of the backlog. -/
  | taken (snapshot : Snapshot)
  /-- The link changed from one state to another, or was set to the same state again. -/
  | moved (origin target : LinkState)
  /-- An attempt to open a stream was counted. -/
  | attempted
  /-- The relay was asked to open a stream; the attempts are numbered from one. -/
  | opening (attempt : Nat)
  /-- The attempt gave a stream, which is known by the number of the attempt. -/
  | opened (attempt : Nat)
  | refused (attempt : Nat)
  /-- A snapshot was given to a stream. -/
  | sending (stream : Nat) (snapshot : Snapshot)
  /-- The stream has taken the snapshot. -/
  | sent (stream : Nat) (snapshot : Snapshot)
  /-- The stream broke on the snapshot and is given up. -/
  | sendFailed (stream : Nat) (snapshot : Snapshot)
  /-- A send was given up because delivery was called off. -/
  | sendAbandoned (stream : Nat) (snapshot : Snapshot)
  /-- A stream was told to close. -/
  | closing (stream : Nat)
  /-- No stream is left open, and there will be no other. -/
  | unlinked
  /-- State of the link and of the backlog after a round of delivery. -/
  | surveyed (state : LinkState) (waiting capacity : Nat)
  /-- A verdict on the health of a component was asked for. -/
  | reported (report : Health.Report)
  deriving DecidableEq

namespace Event

/-- A time in seconds: whole seconds and the rest are rounded apart and then added. -/
def secondsOf (nanos : Nat) : Binary64 :=
  (Binary64.ofNat (nanos / nanosPerSecond)).add
    ((Binary64.ofNat (nanos % nanosPerSecond)).div (Binary64.ofNat nanosPerSecond))

/-- What an event adds to the metrics, in order. -/
def measurements : Event → List Measurement
  | .faulted fault => [.collectionError fault.label]
  | .collected summary =>
    [.latency (secondsOf summary.elapsed), .observed summary.sandboxes summary.containers,
      .backlog summary.waiting summary.capacity]
  | .dropped _ reason => [.snapshotDropped reason.name]
  | .moved _ target => [.relayConnected (target == .connected)]
  | .attempted => [.reconnectAttempt]
  | .sent .. => [.snapshotSent]
  | .sendFailed .. => [.sendFailure]
  | .unlinked => [.relayConnected false]
  | .surveyed _ waiting capacity => [.backlog waiting capacity]
  | _ => []

/-- What an event has logged. Setting the link to the state it is in is not logged. -/
def notices : Event → List Log.Notice
  | .faulted fault => [.collectionFault fault]
  | .collected summary =>
    [.collected summary.sandboxes summary.containers summary.faults.length
      (summary.elapsed / nanosPerMilli) summary.waiting]
  | .dropped snapshot reason => [.snapshotDropped snapshot.timestamp reason.name]
  | .moved origin target => if origin = target then [] else [.linkTransition origin target]
  | .surveyed state waiting _ => [.deliveryStatus (state == .connected) waiting]
  | _ => []

/-- What an event reports to the health registry. -/
def reports : Event → List Health.Report
  | .collected summary =>
    [.collection summary.faults, .backlog summary.waiting summary.capacity]
  | .surveyed state waiting _ => [.link state waiting]
  | .reported report => [report]
  | _ => []

end Event

/-- Events with the nanoseconds at which they happened, the first one first. -/
abbrev Journal := List (Nat × Event)

namespace Journal

def events (journal : Journal) : List Event := journal.map (·.2)

/-- The metrics after everything in a journal. -/
def metrics (journal : Journal) : Metrics :=
  .ofMeasurements (journal.events.flatMap Event.measurements)

/-- All that was logged. -/
def notices (journal : Journal) : List Log.Notice :=
  journal.events.flatMap Event.notices

/-- The health registry after everything in a journal that began at second `epoch`. -/
def registry (epoch : Int64) (journal : Journal) : Health.Registry :=
  journal.foldl
    (fun registry (nanos, event) =>
      event.reports.foldl (.record (epoch + Int64.ofNat (nanos / nanosPerSecond))) registry)
    {}

/-- The snapshots that streams have taken. -/
def sent (journal : Journal) : List Snapshot :=
  journal.events.filterMap fun
    | .sent _ snapshot => some snapshot
    | _ => none

/-- The snapshots that were lost, each with the reason that was reported. -/
def dropped (journal : Journal) : List (Snapshot × Log.DropReason) :=
  journal.events.filterMap fun
    | .dropped snapshot reason => some (snapshot, reason)
    | _ => none

/-- The snapshots that had to leave the backlog and were given to whoever caused that. -/
def displaced (journal : Journal) : List Snapshot :=
  journal.events.filterMap fun
    | .displaced snapshot => some snapshot
    | _ => none

/-- When the relay was asked to open a stream. -/
def attemptTimes (journal : Journal) : List Nat :=
  journal.filterMap fun
    | (nanos, .opening _) => some nanos
    | _ => none

/-- How many streams were told to close. -/
def closes (journal : Journal) : Nat :=
  (journal.events.filter fun
    | .closing _ => true
    | _ => false).length

end Journal

end NodeTelemetry
