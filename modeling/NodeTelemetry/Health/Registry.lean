/-
# The health registry

The registry holds the latest verdict on each component and whether the program has
been wired up. Both loops report to it, and the probes read it. A report concerns the
components that it judges and leaves the others as they are.
-/

import NodeTelemetry.Health.Verdict

namespace NodeTelemetry.Health

/-- A verdict and the second at which it was made. -/
structure Entry where
  verdict : Verdict
  checkedAt : Int64
  deriving DecidableEq

/-- Latest verdicts, absent for a component that was never judged. -/
structure Registry where
  collector : Option Entry := none
  runtime : Option Entry := none
  relay : Option Entry := none
  backlog : Option Entry := none
  ready : Bool := false
  deriving DecidableEq

/-- What is reported to the registry. -/
inductive Report where
  /-- Every component starts out healthy. -/
  | registerAll
  /-- The faults of a finished collection. -/
  | collection (faults : List Fault)
  /-- The runtime queries that failed. -/
  | runtime (failed : List Source)
  /-- The state of the link and how many snapshots wait. -/
  | link (state : LinkState) (buffered : Nat)
  | backlog (length capacity : Nat)
  /-- Whether the program is wired up. -/
  | ready (value : Bool)
  deriving DecidableEq

namespace Registry

/-- Take in a report made at second `now`. -/
def record (now : Int64) (registry : Registry) : Report → Registry
  | .registerAll =>
    let entry : Option Entry := some ⟨.healthy, now⟩
    { registry with collector := entry, runtime := entry, relay := entry, backlog := entry }
  | .collection faults =>
    { registry with
      collector := some ⟨.ofCollection faults, now⟩
      runtime := some ⟨.ofRuntime (faults.filterMap Fault.failedSource?), now⟩ }
  | .runtime failed => { registry with runtime := some ⟨.ofRuntime failed, now⟩ }
  | .link state buffered =>
    match Verdict.ofLink state buffered with
    | none => registry
    | some verdict => { registry with relay := some ⟨verdict, now⟩ }
  | .backlog length capacity =>
    { registry with backlog := some ⟨.ofBacklog length capacity, now⟩ }
  | .ready value => { registry with ready := value }

/-- The latest verdict on a component. -/
def find? (registry : Registry) : Component → Option Entry
  | .collector => registry.collector
  | .runtime => registry.runtime
  | .relay => registry.relay
  | .backlog => registry.backlog

/-- The components that have been judged. -/
def entries (registry : Registry) : List (Component × Entry) :=
  Component.all.filterMap fun component =>
    (registry.find? component).map fun entry => (component, entry)

/-- The worst status of any component. -/
def status (registry : Registry) : Status :=
  Status.worst (registry.entries.map fun (_, entry) => entry.verdict.status)

/-- Why the program should get no traffic, if it should not. -/
def unreadyReason? (registry : Registry) : Option String :=
  if !registry.ready then some "Agent not yet initialized"
  else if registry.status = .unhealthy then some "Critical component unhealthy"
  else none

end Registry

end NodeTelemetry.Health
