/-
# The collector

The collector collects in rounds and puts each snapshot into the backlog, also when
some sources had nothing to say. A collection that is still running when collecting is
called off leaves nothing behind.
-/

import NodeTelemetry.Collection.Basic
import NodeTelemetry.Hub
import NodeTelemetry.Ticker

namespace NodeTelemetry.Collection

/-- Put the findings of a collection into the backlog and the journal. -/
def record (findings : Findings) (elapsed : Nat) (hub : Hub) : Hub :=
  let faulted := findings.faults.foldl (fun hub fault => hub.note (.faulted fault)) hub
  let added := faulted.append (.arrived findings.snapshot) findings.snapshot
  added.note <| .collected
    { sandboxes := findings.snapshot.sandboxes.length
      containers := findings.snapshot.containerCount
      faults := findings.faults
      elapsed
      waiting := added.backlog.length
      capacity := added.backlog.capacity }

/-- Collect once and wait for the end of it. -/
def collectOnce (settings : Settings) (limit : Nat) (sources : Sources) (hub : Hub) :
    Findings × Hub :=
  let findings := collect settings limit hub.second sources
  let spent := elapsed settings limit sources
  (findings, record findings spent (hub.waitUntil (hub.now + spent)))

/-- What a collector works with. -/
structure Plan where
  settings : Settings := {}
  /-- Nanoseconds that a collection waits for its sources. There is no bound to them, since
  the clock never runs out here. That of a program does: it ends when it asks for a moment
  beyond the last one that its clock can tell, some 2 ^ 63 seconds away. -/
  limit : Nat
  /-- The sources as each collection finds them; collections are numbered from zero. -/
  sources : Nat → Sources

/-- A collection that has begun. -/
structure Running where
  index : Nat
  since : Nat
  due : Nat
  findings : Findings
  deriving DecidableEq

/-- What a collector is doing. -/
inductive Phase where
  /-- Waiting for the next round. -/
  | idle
  | running (collection : Running)
  | stopped
  deriving DecidableEq

/-- A collector. Its clock never runs out, whatever the limit in its plan. -/
structure Collector where
  ticker : Ticker
  /-- Collections begun so far. -/
  begun : Nat := 0
  phase : Phase := .idle
  deriving DecidableEq

namespace Collector

/-- The moment at which the collector goes on. -/
def dueAt? (cancelled : Bool) (hub : Hub) (collector : Collector) : Option Nat :=
  match collector.phase with
  | .stopped => none
  | .idle => some (if cancelled then hub.now else max hub.now collector.ticker.due)
  | .running collection => some (if cancelled then hub.now else collection.due)

/-- Begin a collection. -/
def start (plan : Plan) (hub : Hub) (collector : Collector) : Hub × Collector :=
  let sources := plan.sources collector.begun
  let running : Running :=
    { index := collector.begun
      since := hub.now
      due := hub.now + elapsed plan.settings plan.limit sources
      findings := collect plan.settings plan.limit hub.second sources }
  (hub.note (.collecting collector.begun),
    { ticker := collector.ticker.take hub.now
      begun := collector.begun + 1
      phase := .running running })

/-- Do what is due. -/
def step (plan : Plan) (cancelled : Bool) (hub : Hub) (collector : Collector) :
    Hub × Collector :=
  match collector.phase with
  | .stopped => (hub, collector)
  | .idle =>
    if cancelled then (hub, { collector with phase := .stopped })
    else collector.start plan (hub.waitUntil collector.ticker.due)
  | .running collection =>
    if cancelled then
      (hub.note (.discarded collection.index), { collector with phase := .stopped })
    else
      (record collection.findings (collection.due - collection.since)
        (hub.waitUntil collection.due), { collector with phase := .idle })

end Collector

/-! ## Wiring -/

/-- What a collector cannot be made without. -/
inductive Part where
  | sources
  | backlog
  deriving DecidableEq, Repr

/-- The wording of a part's absence. -/
def Part.absence : Part → String
  | .sources => "Orchestrator is required"
  | .backlog => "Backlog is required"

/-- The first part that is missing, if one is. -/
def missingPart? (hasSources hasBacklog : Bool) : Option Part :=
  if !hasSources then some .sources else if !hasBacklog then some .backlog else none

end NodeTelemetry.Collection
