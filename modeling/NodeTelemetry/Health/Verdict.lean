/-
# Verdicts on components

Four components of the program are judged: the collector, the container runtime, the
relay and the backlog. A verdict is a status and, unless healthy, a message. Each
component has one rule that turns what was observed into a verdict.
-/

import NodeTelemetry.Delivery.LinkState
import NodeTelemetry.Fault

namespace NodeTelemetry.Health

/-- What is judged. -/
inductive Component where
  | collector
  | runtime
  | relay
  | backlog
  deriving DecidableEq, Repr

namespace Component

def all : List Component := [.collector, .runtime, .relay, .backlog]

def name : Component → String
  | .collector => "collector"
  | .runtime => "runtime"
  | .relay => "relay"
  | .backlog => "backlog"

end Component

/-- From working, over working with less, to not working. -/
inductive Status where
  | healthy
  | degraded
  | unhealthy
  deriving DecidableEq, Repr

namespace Status

def name : Status → String
  | .healthy => "healthy"
  | .degraded => "degraded"
  | .unhealthy => "unhealthy"

def all : List Status := [.healthy, .degraded, .unhealthy]

def ofName? (text : String) : Option Status := all.find? fun status => status.name == text

/-- The worse of two statuses. -/
def worse : Status → Status → Status
  | .unhealthy, _ => .unhealthy
  | _, .unhealthy => .unhealthy
  | .degraded, _ => .degraded
  | _, .degraded => .degraded
  | .healthy, .healthy => .healthy

/-- The worst of some statuses; no component means healthy. -/
def worst (statuses : List Status) : Status := statuses.foldl worse .healthy

end Status

/-- A judgement without the time at which it was made. -/
structure Verdict where
  status : Status
  message : Option String
  deriving DecidableEq, Repr

namespace Verdict

def healthy : Verdict := ⟨.healthy, none⟩

/-- The collector is degraded by any fault of the last collection. -/
def ofCollection (faults : List Fault) : Verdict :=
  if faults.isEmpty then healthy
  else ⟨.degraded, some (toString faults.length ++ " errors in last collection")⟩

/-- The runtime is degraded when one of its queries failed and unhealthy when all of
them did. Failures of other sources and repetitions do not count. -/
def ofRuntime (failed : List Source) : Verdict :=
  let queries := Source.runtime.filter fun source => failed.contains source
  if queries.isEmpty then healthy
  else
    let message := "runtime sources failed: " ++ ", ".intercalate (queries.map Source.name)
    ⟨if queries.length = Source.runtime.length then .unhealthy else .degraded, some message⟩

/-- The relay is healthy while connected. A terminated link is not judged. -/
def ofLink (state : LinkState) (buffered : Nat) : Option Verdict :=
  match state with
  | .connected => some healthy
  | .terminated => none
  | _ =>
    some ⟨.degraded, some
      ("relay link " ++ state.name ++ ", " ++ toString buffered ++ " snapshots buffered")⟩

/-- The backlog is degraded once adding to it would evict. -/
def ofBacklog (length capacity : Nat) : Verdict :=
  if capacity ≤ length then
    ⟨.degraded, some ("backlog full at " ++ toString length ++ " snapshots")⟩
  else healthy

end Verdict

end NodeTelemetry.Health
