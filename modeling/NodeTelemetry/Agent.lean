/-
# The agent

The agent runs a collector and a deliverer on one hub. Both are stopped by calling
everything off. The agent does what is due first; of two things that are due at the
same moment the collector's comes first.
-/

import NodeTelemetry.Collection.Collector
import NodeTelemetry.Delivery.Deliverer

namespace NodeTelemetry

/-- What an agent works with. -/
structure Plan where
  collection : Collection.Plan
  delivery : Delivery.Plan

/-- A running agent. The session holds the hub, and whether everything was called off. -/
structure Agent where
  session : Delivery.Session
  collector : Collection.Collector
  deliverer : Delivery.Deliverer

namespace Agent

def hub (agent : Agent) : Hub := agent.session.hub

def modifyHub (change : Hub → Hub) (agent : Agent) : Agent :=
  { agent with session := agent.session.modifyHub change }

/-- Call everything off. -/
def cancel (agent : Agent) : Agent := { agent with session := agent.session.cancel }

/-- Whether the collector and the deliverer have stopped. -/
def stopped (agent : Agent) : Bool :=
  agent.collector.phase = .stopped && agent.deliverer.phase = .stopped

/-- Let the collector do what is due. -/
def stepCollector (plan : Plan) (agent : Agent) : Agent :=
  let (hub, collector) :=
    agent.collector.step plan.collection agent.session.cancelled agent.hub
  { agent.modifyHub fun _ => hub with collector }

/-- Let the deliverer do what is due. -/
def stepDeliverer (plan : Plan) (agent : Agent) : Agent :=
  let (session, deliverer) := agent.deliverer.step plan.delivery agent.session
  { agent with session, deliverer }

/-- Whether something that is due at `moment` is to be done before `limit`. -/
def before (moment limit : Option Nat) : Bool :=
  match moment, limit with
  | none, _ => false
  | some _, none => true
  | some moment, some limit => moment < limit

/-- The next step, if there is one before `limit`. -/
def step? (plan : Plan) (limit : Option Nat) (agent : Agent) : Option Agent :=
  let collecting := agent.collector.dueAt? agent.session.cancelled agent.hub
  let delivering := agent.deliverer.dueAt? agent.session
  if before delivering collecting then
    if before delivering limit then some (agent.stepDeliverer plan) else none
  else if before collecting limit then some (agent.stepCollector plan)
  else none

/-- Go on until nothing is to be done before `limit`, but for no more than `steps`
steps. -/
def advance (plan : Plan) (limit : Option Nat) : Nat → Agent → Agent
  | 0, agent => agent
  | steps + 1, agent =>
    match agent.step? plan limit with
    | none => agent
    | some next => advance plan limit steps next

/-- Go on until `moment`; what is due at that moment is not done yet. -/
def runUntil (plan : Plan) (steps moment : Nat) (agent : Agent) : Agent :=
  (agent.advance plan (some moment) steps).modifyHub (·.waitUntil moment)

/-- Call everything off and go on to the end. -/
def finish (plan : Plan) (steps : Nat) (agent : Agent) : Agent :=
  agent.cancel.advance plan none steps

/-! ## Rehearsals -/

/-- What somebody else does while an agent runs. -/
inductive Intervention where
  | nothing
  /-- Put snapshots at the end of the backlog. -/
  | add (snapshots : List Snapshot)
  /-- Take the oldest snapshot out of the backlog. -/
  | take
  /-- Call everything off. -/
  | cancel
  deriving DecidableEq

/-- Intervene; the result is the snapshot that was taken, if one was. -/
def intervene (intervention : Intervention) (agent : Agent) : Option Snapshot × Agent :=
  match intervention with
  | .nothing => (none, agent)
  | .add snapshots => (none, agent.modifyHub (·.offerAll snapshots))
  | .take =>
    let (taken, hub) := agent.hub.take
    (taken, agent.modifyHub fun _ => hub)
  | .cancel => (none, agent.cancel)

/-- Intervene several times in a row. -/
def interveneAll (interventions : List Intervention) (agent : Agent) :
    List Snapshot × Agent :=
  interventions.foldl
    (fun (taken, agent) intervention =>
      let (snapshot, after) := agent.intervene intervention
      (taken ++ snapshot.toList, after))
    ([], agent)

/-- Run an agent with interventions at given moments, in order, and call everything off
after the last one. The results are what was taken at each moment with the agent as the
interventions left it, before it could react; and the agent at the end. -/
def rehearse (plan : Plan) (steps : Nat) :
    List (Nat × List Intervention) → Agent → List (List Snapshot × Agent) × Agent
  | [], agent => ([], agent.finish plan steps)
  | (moment, interventions) :: later, agent =>
    let sample := (agent.runUntil plan steps moment).interveneAll interventions
    let (samples, final) := rehearse plan steps later sample.2
    (sample :: samples, final)

/-- An agent that has a collector or a deliverer, or both, with the intervals of their
rounds. -/
def start (courier : Delivery.Courier) (collecting delivering : Option Nat) : Agent where
  session := { courier }
  collector :=
    { ticker := .start (collecting.getD 0) courier.hub.now
      phase := if collecting.isSome then .idle else .stopped }
  deliverer :=
    { ticker := .start (delivering.getD 0) courier.hub.now
      phase := if delivering.isSome then .idle else .stopped }

end Agent

end NodeTelemetry
