/-
# Metrics that are not zero

A short form of the metrics: the value of every counter and gauge, and how many
latencies fell into each bucket, those above the last bound included. Zeros are left
out.
-/

import NodeTelemetry.Metrics.Basic
import NodeTelemetry.Number.Shortest

namespace NodeTelemetry.Metrics

/-- The counts of a family under the names of its children. -/
def namedCounts (family label : String) (counters : Labelled) : List (String × Int) :=
  counters.map fun (value, count) =>
    (family ++ "\x7b" ++ label ++ "=" ++ value ++ "\x7d", count)

/-- The counts of the latency buckets under their bounds. -/
def namedBuckets (latency : Histogram) : List (String × Int) :=
  let bounds := latencyBounds.map Binary64.toDecimalText ++ ["inf"]
  let counts := latency.counts ++ [latency.total - latency.counts.foldl (· + ·) 0]
  let named (bound : String) (count : Nat) : String × Int :=
    ("collection_latency_seconds_le_" ++ bound, count)
  List.zipWith named bounds counts

/-- The values that are not zero. -/
def changes (metrics : Metrics) : List (String × Int) :=
  let all : List (String × Int) :=
    [("collection_latency_seconds_count", (metrics.latency.total : Int)),
      ("sandboxes_observed", metrics.sandboxesObserved),
      ("containers_observed", metrics.containersObserved),
      ("backlog_items", metrics.backlogItems),
      ("backlog_capacity", metrics.backlogCapacity),
      ("snapshots_sent_total", metrics.snapshotsSent),
      ("send_failures_total", metrics.sendFailures),
      ("reconnect_attempts_total", metrics.reconnectAttempts),
      ("relay_connected", metrics.relayConnected)] ++
    namedBuckets metrics.latency ++
    namedCounts "collection_errors_total" "kind" metrics.collectionErrors ++
    namedCounts "snapshots_dropped_total" "reason" metrics.snapshotsDropped
  all.filter fun (_, value) => value != 0

end NodeTelemetry.Metrics
