/-
# The deliverer

The deliverer lets a courier deliver the backlog in rounds. After each round it takes
stock: the state of the link and the number of waiting snapshots are logged, measured
and reported to the health registry. When delivery is called off it closes the stream
and stops.
-/

import NodeTelemetry.Delivery.Session
import NodeTelemetry.Ticker

namespace NodeTelemetry.Delivery

/-- How long after each other rounds of delivery begin, unless configured. -/
def standardInterval : Duration := .ofSeconds 5

/-- What a deliverer is doing. -/
inductive Phase where
  /-- Waiting for the next round. -/
  | idle
  /-- In a round. -/
  | delivering
  /-- Waiting for the stream to close. -/
  | stopping
  | stopped
  deriving DecidableEq, Repr

structure Deliverer where
  ticker : Ticker
  /-- Rounds begun so far. -/
  rounds : Nat := 0
  phase : Phase := .idle
  deriving DecidableEq

/-- What a deliverer works with. -/
structure Plan where
  peer : Peer
  /-- Whether a round that is due is begun although delivery has just been called off.
  The rounds are numbered from zero. -/
  roundFirst : Nat → Bool := fun _ => false

namespace Deliverer

/-- The moment at which the deliverer goes on by itself. -/
def dueAt? (session : Session) (deliverer : Deliverer) : Option Nat :=
  match deliverer.phase with
  | .stopped => none
  | .idle =>
    some (if session.cancelled then session.now else max session.now deliverer.ticker.due)
  | _ => session.dueAt?

/-- Close the stream. -/
def stop (plan : Plan) (session : Session) (deliverer : Deliverer) : Session × Deliverer :=
  let closing := session.start plan.peer .shutdown
  (closing, { deliverer with
    phase := if closing.pending.isSome then .stopping else .stopped })

/-- Take stock after a round. -/
def survey (session : Session) : Session :=
  session.modifyHub fun hub =>
    hub.note (.surveyed session.courier.state hub.backlog.length hub.backlog.capacity)

/-- End a round once its call has returned. -/
def conclude (plan : Plan) (session : Session) (deliverer : Deliverer) : Session × Deliverer :=
  if session.pending.isSome then (session, { deliverer with phase := .delivering })
  else
    let surveyed := survey session
    if surveyed.courier.state = .terminated then deliverer.stop plan surveyed
    else (surveyed, { deliverer with phase := .idle })

/-- Begin a round. -/
def start (plan : Plan) (session : Session) (deliverer : Deliverer) : Session × Deliverer :=
  let round : Deliverer :=
    { deliverer with
      ticker := deliverer.ticker.take session.now
      rounds := deliverer.rounds + 1 }
  round.conclude plan (session.start plan.peer (.tick none))

/-- Do what is due. -/
def step (plan : Plan) (session : Session) (deliverer : Deliverer) : Session × Deliverer :=
  match deliverer.phase with
  | .stopped => (session, deliverer)
  | .idle =>
    if session.cancelled then
      if plan.roundFirst deliverer.rounds && deliverer.ticker.due ≤ session.now then
        deliverer.start plan session
      else deliverer.stop plan session
    else deliverer.start plan (session.modifyHub (·.waitUntil deliverer.ticker.due))
  | .delivering => deliverer.conclude plan (session.step plan.peer)
  | .stopping =>
    let closed := session.step plan.peer
    (closed, { deliverer with
      phase := if closed.pending.isSome then .stopping else .stopped })

end Deliverer

end NodeTelemetry.Delivery
