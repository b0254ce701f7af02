/-
# Sessions

A courier works against a relay that takes its time. A session is a courier, the call
it is in and the moment at which the wait of that call ends. The relay is given as a
`Peer`, which says for every request and for every send when it is answered and how;
since requests and the sends on a stream are numbered, every behaviour of a relay in a
run is a peer.

An answer that comes at once is used even if the request for it called delivery off.
Otherwise, when a wait ends at the moment at which delivery is called off, it ends
because of that.
-/

import NodeTelemetry.Delivery.Courier

namespace NodeTelemetry.Delivery

/-- How a request for a stream is answered. -/
structure Opening where
  /-- Nanoseconds until the answer; `none` for one that never comes. -/
  after : Option Nat := some 0
  accepts : Bool := true
  /-- Whether delivery is called off by the request. -/
  cancels : Bool := false
  deriving DecidableEq

/-- How a send ends. -/
structure Sending where
  /-- Nanoseconds until the end; `none` for a send that never ends. -/
  after : Option Nat := some 0
  succeeds : Bool := true
  /-- Snapshots that others add to the backlog just before the end. -/
  arrivals : List Snapshot := []
  deriving DecidableEq

/-- The behaviour of a relay. -/
structure Peer where
  /-- Answers to the requests for a stream, which are numbered from one. -/
  opening : Nat → Opening
  /-- Ends of the sends on the stream of an attempt, numbered from one on each stream. -/
  sending : Nat → Nat → Sending
  /-- Nanoseconds until the stream of an attempt has closed. -/
  closing : Nat → Option Nat := fun _ => some 0

/-- A wait with its end. -/
structure Pending where
  wait : Wait
  /-- When the wait began. -/
  since : Nat
  /-- When the wait ends unless delivery is called off before. -/
  due : Option Nat
  signal : Signal
  arrivals : List Snapshot := []
  deriving DecidableEq

/-- Whether a wait ends as soon as it begins. -/
def Pending.immediate (pending : Pending) : Bool := pending.due == some pending.since

structure Session where
  courier : Courier
  cancelled : Bool := false
  pending : Option Pending := none
  /-- What the latest call returned. -/
  success : Bool := false

namespace Session

def hub (session : Session) : Hub := session.courier.hub

def now (session : Session) : Nat := session.courier.hub.now

def modifyHub (change : Hub → Hub) (session : Session) : Session :=
  { session with courier := { session.courier with hub := change session.courier.hub } }

/-- When a wait that begins now will end, and how. -/
def schedule (peer : Peer) (courier : Courier) (wait : Wait) : Pending :=
  let now := courier.hub.now
  let pending (after : Option Nat) (signal : Signal) : Pending :=
    { wait, since := now, due := after.map (now + ·), signal }
  match wait with
  | .opening _ =>
    let opening := peer.opening courier.attempts
    pending opening.after (if opening.accepts then .done else .failed)
  | .backingOff delay _ => pending (some delay.nanos) .done
  | .sending .. =>
    match courier.link with
    | .connected stream =>
      let sending := peer.sending stream.attempt stream.sends
      { pending sending.after (if sending.succeeds then .done else .failed) with
        arrivals := sending.arrivals }
    | _ => pending (some 0) .failed
  | .closing => pending (peer.closing courier.attempts) .done

/-- Whether beginning a wait calls delivery off. -/
def callsOff (peer : Peer) (courier : Courier) : Wait → Bool
  | .opening _ => (peer.opening courier.attempts).cancels
  | _ => false

/-- Take over what a step of the courier comes to once its tasks are done. -/
def absorb (peer : Peer) (session : Session) (result : Courier × Progress) : Session :=
  let (courier, progress) := Courier.settle session.cancelled result
  { courier
    cancelled := session.cancelled || (progress.wait?.map (callsOff peer courier)).getD false
    pending := progress.wait?.map (schedule peer courier)
    success := progress.success?.getD session.success }

/-- Begin a call. -/
def start (peer : Peer) (call : Call) (session : Session) : Session :=
  session.absorb peer (session.courier.start session.cancelled call)

/-- Call delivery off. -/
def cancel (session : Session) : Session := { session with cancelled := true }

/-- Use a token that has not been cancelled. -/
def renew (session : Session) : Session := { session with cancelled := false }

/-- Whether a wait that has not ended at once is ended by calling delivery off. -/
def interrupted (session : Session) (pending : Pending) : Bool :=
  session.cancelled && !pending.immediate &&
    match pending.wait with
    | .closing => false
    | _ => true

/-- The moment at which the session goes on, if it does so by itself. -/
def dueAt? (session : Session) : Option Nat :=
  match session.pending with
  | none => none
  | some pending => if session.interrupted pending then some session.now else pending.due

/-- End the current wait and go on. -/
def step (peer : Peer) (session : Session) : Session :=
  match session.pending with
  | none => session
  | some pending =>
    if session.interrupted pending then
      session.absorb peer (session.courier.resume session.cancelled .cancelled pending.wait)
    else
      match pending.due with
      | none => session
      | some due =>
        let arrived := session.modifyHub fun hub => (hub.waitUntil due).offerAll pending.arrivals
        arrived.absorb peer (arrived.courier.resume session.cancelled pending.signal pending.wait)

/-- Whether the session goes on by itself before a moment, if one is given. -/
def goesOnBefore (limit : Option Nat) (session : Session) : Bool :=
  match session.dueAt?, limit with
  | none, _ => false
  | some _, none => true
  | some due, some limit => due < limit

/-- Go on for as long as there is something to do before a moment, if one is given, but
for no more than `steps` steps. -/
def advance (peer : Peer) (limit : Option Nat) : Nat → Session → Session
  | 0, session => session
  | steps + 1, session =>
    if session.goesOnBefore limit then advance peer limit steps (session.step peer)
    else session

/-- Make a call and wait for its return. With a limit, delivery is called off so many
nanoseconds after the beginning, unless the call has returned before. -/
def run (peer : Peer) (steps : Nat) (call : Call) (limit : Option Nat) (session : Session) :
    Session :=
  let moment := limit.map (session.now + ·)
  let before := advance peer moment steps (session.start peer call)
  match moment, before.pending with
  | some moment, some _ =>
    advance peer none steps (before.modifyHub (·.waitUntil moment)).cancel
  | _, _ => before

end Session

end NodeTelemetry.Delivery
