/-
# The hub

Collection and delivery share a clock, a backlog and a journal; together they are the
hub. The operations on the hub are all the ways in which snapshots enter and leave the
backlog, each with its journal entries.
-/

import NodeTelemetry.Backlog.Basic
import NodeTelemetry.Journal

namespace NodeTelemetry

structure Hub where
  /-- The second since the epoch at which the clock stood at zero. -/
  epoch : Int64 := 0
  /-- Nanoseconds on the clock. -/
  now : Nat := 0
  backlog : Backlog Snapshot
  journal : Journal := []

namespace Hub

/-- A hub with an empty backlog. -/
def start (epoch : Int64) (capacity : Nat) : Hub :=
  { epoch, backlog := .withCapacity capacity }

/-- The second since the epoch. -/
def second (hub : Hub) : Int64 := hub.epoch + Int64.ofNat (hub.now / nanosPerSecond)

/-- Write down what happens now. -/
def note (event : Event) (hub : Hub) : Hub :=
  { hub with journal := hub.journal ++ [(hub.now, event)] }

/-- Let the clock advance to a later moment. -/
def waitUntil (moment : Nat) (hub : Hub) : Hub :=
  { hub with now := max hub.now moment }

/-- Put a snapshot at the end of the backlog and report the one that is lost by it. -/
def append (event : Event) (snapshot : Snapshot) (hub : Hub) : Hub :=
  let (evicted, backlog) := hub.backlog.add snapshot
  let added := { hub.note event with backlog }
  match evicted with
  | none => added
  | some lost => added.note (.dropped lost .overwritten)

/-- Put a snapshot at the end of the backlog and return the one that had to go. -/
def offer (snapshot : Snapshot) (hub : Hub) : Option Snapshot × Hub :=
  let (evicted, backlog) := hub.backlog.add snapshot
  let added := { hub.note (.arrived snapshot) with backlog }
  match evicted with
  | none => (none, added)
  | some lost => (some lost, added.note (.displaced lost))

/-- Put snapshots at the end of the backlog one after the other. -/
def offerAll (snapshots : List Snapshot) (hub : Hub) : Hub :=
  snapshots.foldl (fun hub snapshot => (hub.offer snapshot).2) hub

/-- Take the oldest snapshot out of the backlog for good. -/
def take (hub : Hub) : Option Snapshot × Hub :=
  let (popped, backlog) := hub.backlog.pop
  match popped with
  | none => (none, { hub with backlog })
  | some snapshot => (some snapshot, { hub.note (.taken snapshot) with backlog })

/-- Put a snapshot that was not sent back to the front of the backlog. It is lost if the
backlog has filled up meanwhile. -/
def putBack (snapshot : Snapshot) (hub : Hub) : Hub :=
  match hub.backlog.requeue? snapshot with
  | some backlog => { hub with backlog }
  | none => hub.note (.dropped snapshot .requeueOverflow)

end Hub

end NodeTelemetry
