/-
# Log notices

Everything that is worth a structured log line is a `Notice`. A line names the event,
the node, the fields of the event and a fixed message, at a level that depends on the
event alone.
-/

import NodeTelemetry.Delivery.LinkState
import NodeTelemetry.Fault
import NodeTelemetry.Json.Value

namespace NodeTelemetry.Log

inductive Level where
  | debug
  | info
  | warn
  deriving DecidableEq, Repr

def Level.name : Level → String
  | .debug => "DEBUG"
  | .info => "INFO"
  | .warn => "WARN"

/-- Why a snapshot was lost. -/
inductive DropReason where
  /-- A newer snapshot took its place in a full backlog. -/
  | overwritten
  /-- It came back from a failed send to a full backlog. -/
  | requeueOverflow
  deriving DecidableEq, Repr

def DropReason.name : DropReason → String
  | .overwritten => "overwritten"
  | .requeueOverflow => "requeue_overflow"

/-- Events that are logged. -/
inductive Notice where
  | started (version relay runtimeSocket : String)
  | shutdown (reason : String)
  /-- A finished collection; the milliseconds it took are logged as a 64-bit word. -/
  | collected (sandboxes containers faults elapsedMs backlogLength : Nat)
  | collectionFault (fault : Fault)
  | snapshotDropped (timestamp : Int64) (reason : String)
  | linkTransition (origin target : LinkState)
  | deliveryStatus (connected : Bool) (buffered : Nat)
  deriving DecidableEq

/-- A log line before it is written. -/
structure Line where
  level : Level
  event : String
  fields : List (String × Json)
  message : String

/-- What a notice logs. -/
def Notice.line : Notice → Line
  | .started version relay runtimeSocket =>
    ⟨.info, "agent_started",
      [("agent_version", .text version), ("relay", .text relay),
        ("runtime_socket", .text runtimeSocket)],
      "Telemetry agent started"⟩
  | .shutdown reason =>
    ⟨.info, "agent_shutdown", [("reason", .text reason)], "Telemetry agent shutting down"⟩
  | .collected sandboxes containers faults elapsedMs backlogLength =>
    ⟨.debug, "snapshot_collected",
      [("sandboxes", .whole sandboxes), ("containers", .whole containers),
        ("errors", .whole faults), ("elapsed_ms", .whole (elapsedMs % 0x10000000000000000)),
        ("backlog_len", .whole backlogLength)],
      "Collection cycle complete"⟩
  | .collectionFault (.source origin message) =>
    ⟨.warn, "source_failed", [("source_kind", .text origin.name), ("error", .text message)],
      "Metric source failed"⟩
  | .collectionFault fault =>
    ⟨.debug, "collection_error", [("kind", .text fault.label), ("error", .text fault.message)],
      "Collection error"⟩
  | .snapshotDropped timestamp reason =>
    ⟨.warn, "snapshot_dropped",
      [("snapshot_timestamp", .ofInt64 timestamp), ("reason", .text reason)],
      "Snapshot dropped from backlog"⟩
  | .linkTransition origin target =>
    let fields := [("from", Json.text origin.name), ("to", Json.text target.name)]
    match target with
    | .connected => ⟨.info, "link_transition", fields, "Relay stream connected"⟩
    | _ => ⟨.debug, "link_transition", fields, "Relay link changed state"⟩
  | .deliveryStatus connected buffered =>
    let fields := [("connected", Json.bool connected), ("buffered_items", .whole buffered)]
    if connected then ⟨.debug, "relay_sync", fields, "Delivered backlog to relay"⟩
    else ⟨.warn, "relay_sync", fields, "Relay unavailable, buffering locally"⟩

/-- A line about a node as JSON. -/
def Line.toJson (node : String) (line : Line) : Json :=
  .object ([("event", .text line.event), ("node", .text node)] ++ line.fields ++
    [("message", .text line.message), ("level", .text line.level.name)])

def Notice.toJson (node : String) (notice : Notice) : Json := notice.line.toJson node

end NodeTelemetry.Log
