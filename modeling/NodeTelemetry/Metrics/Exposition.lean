/-
# Exposition of the metrics

The text that a monitoring system scrapes: families in the order of their names, each
with a help line, a type line and its samples. A family of labelled counters without
children is left out. The latency histogram is cumulative and closes with the bucket
of all observations, their sum and their number. Values are doubles in their shortest
positional form.
-/

import NodeTelemetry.Metrics.Basic
import NodeTelemetry.Number.Shortest

namespace NodeTelemetry.Metrics

/-- Media type of the text. -/
def mediaType : String := "text/plain; version=0.0.4"

/-- What every metric name starts with. -/
def nameStart : String := "telemetry_agent_"

inductive FamilyType where
  | counter
  | gauge
  | histogram

def FamilyType.name : FamilyType → String
  | .counter => "counter"
  | .gauge => "gauge"
  | .histogram => "histogram"

/-- One line with a value: what follows the family name, labels, value. -/
structure Sample where
  ending : String
  labels : List (String × String)
  value : Binary64

/-- Samples that share a name, a help text and a type. -/
structure Family where
  name : String
  help : String
  type : FamilyType
  samples : List Sample

/-- Label values escape backslashes, quotes and line feeds. -/
def escapeLabel (c : Char) : List Char :=
  match c with
  | '\\' => ['\\', '\\']
  | '"' => ['\\', '"']
  | '\n' => ['\\', 'n']
  | c => [c]

def Sample.line (family : String) (sample : Sample) : String :=
  let pairs := sample.labels.map fun (name, value) =>
    name ++ "=\"" ++ String.ofList (value.toList.flatMap escapeLabel) ++ "\""
  let labels := if pairs.isEmpty then "" else "\x7b" ++ ",".intercalate pairs ++ "\x7d"
  family ++ sample.ending ++ labels ++ " " ++ sample.value.toDecimalText

def Family.lines (family : Family) : List String :=
  if family.samples.isEmpty then []
  else
    let name := nameStart ++ family.name
    ("# HELP " ++ name ++ " " ++ family.help) :: ("# TYPE " ++ name ++ " " ++ family.type.name) ::
      family.samples.map (·.line name)

def single (value : Int) : List Sample := [⟨"", [], Binary64.ofInt value⟩]

def labelled (label : String) (counters : Labelled) : List Sample :=
  counters.map fun (value, count) => ⟨"", [(label, value)], Binary64.ofNat count⟩

/-- Running totals of the bucket counts. -/
def cumulative (before : Nat) : List Nat → List Nat
  | [] => []
  | count :: rest => (before + count) :: cumulative (before + count) rest

def Histogram.samples (histogram : Histogram) : List Sample :=
  let bucket (bound : String) (count : Nat) : Sample :=
    ⟨"_bucket", [("le", bound)], Binary64.ofNat count⟩
  List.zipWith (fun bound count => bucket bound.toDecimalText count) latencyBounds
      (cumulative 0 histogram.counts) ++
    [bucket "+Inf" histogram.total, ⟨"_sum", [], histogram.sum⟩,
      ⟨"_count", [], Binary64.ofNat histogram.total⟩]

/-- The families in the order of their names. -/
def families (metrics : Metrics) : List Family :=
  [⟨"backlog_capacity", "Maximum number of snapshots the backlog holds", .gauge,
      single metrics.backlogCapacity⟩,
    ⟨"backlog_items", "Snapshots waiting in the backlog", .gauge, single metrics.backlogItems⟩,
    ⟨"collection_errors_total", "Non-fatal collection errors by kind", .counter,
      labelled "kind" metrics.collectionErrors⟩,
    ⟨"collection_latency_seconds", "Time spent collecting one snapshot from all sources",
      .histogram, Histogram.samples metrics.latency⟩,
    ⟨"containers_observed", "Containers in the most recent snapshot", .gauge,
      single metrics.containersObserved⟩,
    ⟨"reconnect_attempts_total", "Attempts to open a relay stream", .counter,
      single metrics.reconnectAttempts⟩,
    ⟨"relay_connected", "1 while a relay stream is open", .gauge, single metrics.relayConnected⟩,
    ⟨"sandboxes_observed", "Sandboxes in the most recent snapshot", .gauge,
      single metrics.sandboxesObserved⟩,
    ⟨"send_failures_total", "Failed sends on an established relay stream", .counter,
      single metrics.sendFailures⟩,
    ⟨"snapshots_dropped_total", "Snapshots discarded without delivery by reason", .counter,
      labelled "reason" metrics.snapshotsDropped⟩,
    ⟨"snapshots_sent_total", "Snapshots written to the relay stream", .counter,
      single metrics.snapshotsSent⟩]

/-- The lines of the exposition; each is ended by a line feed. -/
def lines (metrics : Metrics) : List String :=
  metrics.families.flatMap Family.lines

/-- The whole exposition. -/
def exposition (metrics : Metrics) : String :=
  String.join (metrics.lines.map (· ++ "\n"))

end NodeTelemetry.Metrics
