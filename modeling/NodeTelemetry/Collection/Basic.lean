/-
# Collections

A collection asks five sources at the same time and waits for none of them beyond a
deadline. What they answer in time becomes a snapshot. A source that fails or is late
gives one fault, and the snapshot is made as if that source had nothing to say.
-/

import NodeTelemetry.Duration
import NodeTelemetry.Inventory.Join
import NodeTelemetry.Snapshot.Basic

namespace NodeTelemetry.Collection

/-- How long after each other collections begin, unless configured. -/
def standardInterval : Duration := .ofSeconds 5

/-- How long a collection waits for its sources, unless configured. -/
def standardLimit : Duration := .ofSeconds 5

/-! ## Sources -/

/-- What a collection asks for. -/
inductive Query where
  /-- The node with its processes that use most memory, so many of them. -/
  | host (topProcesses : Nat)
  /-- The sandboxes in a state, or all of them. -/
  | sandboxes (filter : Option SandboxState)
  | sandboxStats
  /-- The containers in a state, or all of them. -/
  | containers (filter : Option UnitState)
  | containerStats
  deriving DecidableEq

namespace Query

/-- The source that a query goes to. -/
def source : Query → Source
  | .host _ => .host
  | .sandboxes _ => .sandboxes
  | .sandboxStats => .sandboxStats
  | .containers _ => .containers
  | .containerStats => .containerStats

/-- What a query is answered with. -/
def Content : Query → Type
  | .host _ => NodeRecord
  | .sandboxes _ => List Inventory.Sandbox
  | .sandboxStats => List Inventory.SandboxStats
  | .containers _ => List Inventory.Container
  | .containerStats => List Inventory.ContainerStats

end Query

/-- The answer of a source. -/
structure Answer (α : Type) where
  /-- Nanoseconds until the answer; `none` for one that never comes. -/
  after : Option Nat := some 0
  /-- What the source has to say, or the causes of its failure, outermost first. -/
  result : Except (List String) α

/-- The answers to all queries. -/
abbrev Sources := (query : Query) → Answer query.Content

/-- The wording of a source's lateness. -/
def lateMessage : String := "deadline exceeded"

namespace Answer

variable {α : Type}

/-- Whether the answer is there once `limit` nanoseconds have passed. -/
def inTime (limit : Nat) (answer : Answer α) : Bool :=
  match answer.after with
  | none => false
  | some delay => delay ≤ limit

/-- What an answer comes to if one waits for it for `limit` nanoseconds. -/
def within (origin : Source) (limit : Nat) (answer : Answer α) : Except Fault α :=
  if answer.inTime limit then
    answer.result.mapError fun causes => .source origin (causeChain causes)
  else .error (.source origin lateMessage)

/-- How long one waits for an answer. -/
def patience (limit : Nat) (answer : Answer α) : Nat :=
  match answer.after with
  | none => limit
  | some delay => min delay limit

end Answer

/-! ## Settings -/

structure Settings where
  /-- How many processes the node record names. -/
  topProcesses : Nat := 10
  /-- The state in which sandboxes are collected; `none` for all of them. -/
  filter : Option SandboxState := some .ready
  deriving DecidableEq

namespace Settings

def host (settings : Settings) : Query := .host settings.topProcesses

def sandboxes (settings : Settings) : Query := .sandboxes settings.filter

/-- What is asked in one collection. -/
def queries (settings : Settings) : List Query :=
  [settings.host, settings.sandboxes, .sandboxStats, .containers none, .containerStats]

end Settings

/-! ## Collecting -/

/-- A snapshot and the faults that went with it. -/
structure Findings where
  snapshot : Snapshot
  faults : List Fault
  deriving DecidableEq

/-- The fault of a source that has nothing to say. -/
def faultOf {α : Type} : Except Fault α → Option Fault
  | .ok _ => none
  | .error fault => some fault

/-- Make a snapshot of what the sources came to. Containers of sandboxes that are not
listed count as faults only if all sandboxes were asked for. -/
def assemble (settings : Settings) (timestamp : Int64) (host : Except Fault NodeRecord)
    (sandboxes : Except Fault (List Inventory.Sandbox))
    (sandboxStats : Except Fault (List Inventory.SandboxStats))
    (containers : Except Fault (List Inventory.Container))
    (containerStats : Except Fault (List Inventory.ContainerStats)) : Findings :=
  let (records, misses) := Inventory.join
    { sandboxes := sandboxes.toOption
      sandboxStats := sandboxStats.toOption
      containers := containers.toOption
      containerStats := containerStats.toOption }
    settings.filter.isNone
  let failed := [faultOf host, faultOf sandboxes, faultOf sandboxStats, faultOf containers,
    faultOf containerStats].filterMap id
  { snapshot := ⟨timestamp, host.toOption, records⟩, faults := failed ++ misses }

/-- A collection that begins at second `timestamp` and waits for `limit` nanoseconds. -/
def collect (settings : Settings) (limit : Nat) (timestamp : Int64) (sources : Sources) :
    Findings :=
  assemble settings timestamp
    ((sources settings.host).within .host limit)
    ((sources settings.sandboxes).within .sandboxes limit)
    ((sources .sandboxStats).within .sandboxStats limit)
    ((sources (.containers none)).within .containers limit)
    ((sources .containerStats).within .containerStats limit)

/-- The nanoseconds that a collection takes: it ends when the last answer is there or
given up. -/
def elapsed (settings : Settings) (limit : Nat) (sources : Sources) : Nat :=
  (settings.queries.map fun query => (sources query).patience limit).foldl max 0

end NodeTelemetry.Collection
