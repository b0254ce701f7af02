/-
# Snapshots

A snapshot is everything one collection found out: when it began, the node unless the
node could not be read, and the sandboxes in the order in which the runtime lists
them.
-/

import NodeTelemetry.Snapshot.Node
import NodeTelemetry.Snapshot.Workload

namespace NodeTelemetry

/-- One collection; `timestamp` is in seconds since the epoch. -/
structure Snapshot where
  timestamp : Int64
  node : Option NodeRecord
  sandboxes : List SandboxRecord
  deriving DecidableEq

namespace Snapshot

/-- A snapshot that holds its timestamp only. -/
def bare (timestamp : Int64) : Snapshot := ⟨timestamp, none, []⟩

/-- Number of containers in all sandboxes. -/
def containerCount (snapshot : Snapshot) : Nat :=
  snapshot.sandboxes.foldl (fun count sandbox => count + sandbox.units.length) 0

end Snapshot

end NodeTelemetry
