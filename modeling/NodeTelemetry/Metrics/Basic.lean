/-
# Metrics

The program counts what it does. Everything that changes a metric is a `Measurement`,
and the metrics are what a list of measurements adds up to: counters grow, gauges
keep the last value, and collection latencies fall into the first bucket whose bound
is not below them.
-/

import NodeTelemetry.Number.Binary64

namespace NodeTelemetry

/-- Something that was measured. -/
inductive Measurement where
  /-- Seconds that a collection took. -/
  | latency (seconds : Binary64)
  /-- A fault of a collection, under its label. -/
  | collectionError (kind : String)
  /-- Sandboxes and containers in the latest snapshot. -/
  | observed (sandboxes containers : Int)
  /-- How many snapshots wait, and how many could. -/
  | backlog (items capacity : Int)
  | snapshotSent
  | sendFailure
  /-- An attempt to open a stream. -/
  | reconnectAttempt
  /-- A snapshot that was lost, under the reason. -/
  | snapshotDropped (reason : String)
  /-- Whether a stream is open. -/
  | relayConnected (connected : Bool)
  deriving DecidableEq

/-- Upper bounds of the latency buckets in seconds, as decimals. Latencies above the
last one are counted in the total only. -/
def latencyBounds : List Binary64 :=
  [(1, -3), (5, -3), (1, -2), (25, -3), (5, -2), (1, -1), (25, -2), (5, -1), (1, 0), (25, -1),
    (5, 0), (10, 0)].map fun (digits, exponent) => Binary64.ofDecimal false digits exponent

/-- Latencies by bucket; `counts` is aligned with `latencyBounds`. -/
structure Histogram where
  counts : List Nat := latencyBounds.map fun _ => 0
  total : Nat := 0
  sum : Binary64 := Binary64.zero
  deriving DecidableEq

/-- Count a value in the first bucket that it does not exceed. -/
def bumpFirst (value : Binary64) : List Binary64 → List Nat → List Nat
  | bound :: bounds, count :: counts =>
    if value.le bound then (count + 1) :: counts else count :: bumpFirst value bounds counts
  | _, counts => counts

def Histogram.observe (histogram : Histogram) (value : Binary64) : Histogram where
  counts := bumpFirst value latencyBounds histogram.counts
  total := histogram.total + 1
  sum := histogram.sum.add value

/-- Counters that come in one child for each label value, in the order of the labels. -/
abbrev Labelled := List (String × Nat)

namespace Labelled

/-- Count one more under a label. -/
def bump (label : String) : Labelled → Labelled
  | [] => [(label, 1)]
  | (other, count) :: rest =>
    if other = label then (other, count + 1) :: rest
    else if label < other then (label, 1) :: (other, count) :: rest
    else (other, count) :: bump label rest

/-- The count under a label. -/
def count (label : String) (counters : Labelled) : Nat :=
  ((counters.find? fun (other, _) => other == label).map (·.2)).getD 0

end Labelled

/-- The values of all metrics. -/
structure Metrics where
  latency : Histogram := {}
  collectionErrors : Labelled := []
  sandboxesObserved : Int := 0
  containersObserved : Int := 0
  backlogItems : Int := 0
  backlogCapacity : Int := 0
  snapshotsSent : Nat := 0
  sendFailures : Nat := 0
  reconnectAttempts : Nat := 0
  snapshotsDropped : Labelled := []
  relayConnected : Int := 0
  deriving DecidableEq

namespace Metrics

def record (metrics : Metrics) : Measurement → Metrics
  | .latency seconds => { metrics with latency := metrics.latency.observe seconds }
  | .collectionError kind =>
    { metrics with collectionErrors := metrics.collectionErrors.bump kind }
  | .observed sandboxes containers =>
    { metrics with sandboxesObserved := sandboxes, containersObserved := containers }
  | .backlog items capacity =>
    { metrics with backlogItems := items, backlogCapacity := capacity }
  | .snapshotSent => { metrics with snapshotsSent := metrics.snapshotsSent + 1 }
  | .sendFailure => { metrics with sendFailures := metrics.sendFailures + 1 }
  | .reconnectAttempt => { metrics with reconnectAttempts := metrics.reconnectAttempts + 1 }
  | .snapshotDropped reason =>
    { metrics with snapshotsDropped := metrics.snapshotsDropped.bump reason }
  | .relayConnected connected =>
    { metrics with relayConnected := if connected then 1 else 0 }

/-- What measurements add up to. -/
def ofMeasurements (measurements : List Measurement) : Metrics :=
  measurements.foldl record {}

end Metrics

end NodeTelemetry
