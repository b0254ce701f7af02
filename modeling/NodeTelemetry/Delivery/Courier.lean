/-
# The courier

The courier takes snapshots from the backlog to the relay over a stream that it opens
when it needs one. It shares the backlog with others, so what it does between two waits
is divided into tasks with one access to the backlog each: `start` begins a call,
`resume` goes on when the wait of a call has ended, and `perform` does a task; all of
them say what the call does or waits for next, or that it has returned. `settle` does
the tasks without letting anybody in between.

A call waits in four ways: for an answer to the request for a stream, for the delay
after a refusal, for a stream to take a snapshot, and for a stream to close. Every
wait but the last one ends early when delivery is called off.
-/

import NodeTelemetry.Delivery.Backoff
import NodeTelemetry.Hub

namespace NodeTelemetry.Delivery

/-- A stream, known by the attempt that opened it, and the number of sends begun on it. -/
structure Stream where
  attempt : Nat
  sends : Nat
  deriving DecidableEq

/-- The link with what belongs to its state. -/
inductive Link where
  | disconnected
  | connecting
  | backoff (delay : Duration)
  | connected (stream : Stream)
  | terminated
  deriving DecidableEq

def Link.state : Link → LinkState
  | .disconnected => .disconnected
  | .connecting => .connecting
  | .backoff _ => .backoff
  | .connected _ => .connected
  | .terminated => .terminated

/-- What a courier can be asked to do. -/
inductive Call where
  /-- Get a stream. -/
  | connect
  /-- Get a stream, send the backlog from its oldest snapshot on, and then send a fresh
  snapshot, if there is one. The first failure ends the call. -/
  | tick (fresh : Option Snapshot)
  /-- Close the stream, if one is open, and stay terminated. -/
  | shutdown
  deriving DecidableEq

/-- The fresh snapshot that comes with a call. -/
def Call.fresh : Call → Option Snapshot
  | .tick fresh => fresh
  | _ => none

/-- Whose turn it is in a send. -/
inductive Turn where
  /-- A snapshot of the backlog; a fresh one may come after the backlog. -/
  | backlog (fresh : Option Snapshot)
  /-- The fresh snapshot. -/
  | fresh
  deriving DecidableEq

/-- What a call waits for. -/
inductive Wait where
  | opening (call : Call)
  | backingOff (delay : Duration) (call : Call)
  | sending (snapshot : Snapshot) (turn : Turn)
  | closing
  deriving DecidableEq

/-- How a wait ends. -/
inductive Signal where
  /-- Delivery was called off. -/
  | cancelled
  /-- The wait ended well: a stream was opened, the delay is over, the stream has taken
  the snapshot, or the stream has closed. -/
  | done
  /-- The stream was refused, or it broke. -/
  | failed
  deriving DecidableEq, Repr

/-- What a call does with the backlog before its next wait. -/
inductive Task where
  /-- Send the oldest snapshot, or the fresh one once the backlog is empty. -/
  | drain (fresh : Option Snapshot)
  /-- Put a snapshot that was not sent back. -/
  | putBack (snapshot : Snapshot) (turn : Turn)
  /-- Keep the fresh snapshot, which could not be sent. -/
  | keep (snapshot : Snapshot)
  deriving DecidableEq

/-- Where a call stands after a step; a returned call says whether the link was
connected and everything was sent. -/
inductive Progress where
  | working (task : Task)
  | waiting (wait : Wait)
  | returned (success : Bool)
  deriving DecidableEq

/-- The wait that a call is in. -/
def Progress.wait? : Progress → Option Wait
  | .waiting wait => some wait
  | _ => none

/-- What a call has returned. -/
def Progress.success? : Progress → Option Bool
  | .returned success => some success
  | _ => none

structure Courier where
  hub : Hub
  link : Link := .disconnected
  backoff : Backoff := .standard
  /-- Requests for a stream so far. -/
  attempts : Nat := 0

namespace Courier

def state (courier : Courier) : LinkState := courier.link.state

def note (event : Event) (courier : Courier) : Courier :=
  { courier with hub := courier.hub.note event }

/-- Change the link. -/
def move (target : Link) (courier : Courier) : Courier :=
  { courier.note (.moved courier.link.state target.state) with link := target }

/-- Put a snapshot that was not sent back. -/
def putBack (snapshot : Snapshot) (courier : Courier) : Courier :=
  { courier with hub := courier.hub.putBack snapshot }

/-- Keep a fresh snapshot that could not be sent. -/
def keep (snapshot : Snapshot) (courier : Courier) : Courier :=
  { courier with hub := courier.hub.append (.kept snapshot) snapshot }

/-- Return without having sent everything, once the fresh snapshot is safe. -/
def giveUp (fresh : Option Snapshot) (courier : Courier) : Courier × Progress :=
  match fresh with
  | none => (courier, .returned false)
  | some snapshot => (courier, .working (.keep snapshot))

/-! ## Sending -/

/-- Return from a send that did not succeed. -/
def endTurn (turn : Turn) (courier : Courier) : Courier × Progress :=
  match turn with
  | .backlog fresh => courier.giveUp fresh
  | .fresh => (courier, .returned false)

/-- Give a snapshot to the open stream. Without one it goes back. -/
def send (snapshot : Snapshot) (turn : Turn) (courier : Courier) : Courier × Progress :=
  match courier.link with
  | .connected stream =>
    ({ courier.note (.sending stream.attempt snapshot) with
        link := .connected { stream with sends := stream.sends + 1 } },
      .waiting (.sending snapshot turn))
  | _ => (courier, .working (.putBack snapshot turn))

/-- Send the oldest snapshot of the backlog, or the fresh one once the backlog is empty. -/
def drain (cancelled : Bool) (fresh : Option Snapshot) (courier : Courier) :
    Courier × Progress :=
  if cancelled then courier.giveUp fresh
  else
    let (oldest, backlog) := courier.hub.backlog.pop
    match oldest, fresh with
    | some snapshot, _ =>
      send snapshot (.backlog fresh) { courier with hub := { courier.hub with backlog } }
    | none, some snapshot => courier.send snapshot .fresh
    | none, none => (courier, .returned true)

/-- Do a task. -/
def perform (cancelled : Bool) (task : Task) (courier : Courier) : Courier × Progress :=
  match task with
  | .drain fresh => courier.drain cancelled fresh
  | .putBack snapshot turn => (courier.putBack snapshot).endTurn turn
  | .keep snapshot => (courier.keep snapshot, .returned false)

/-- Go on with a call on a connected link. -/
def proceed (call : Call) (courier : Courier) : Courier × Progress :=
  match call with
  | .tick fresh => (courier, .working (.drain fresh))
  | _ => (courier, .returned true)

/-! ## Connecting -/

/-- End a call because delivery was called off. -/
def terminate (call : Call) (courier : Courier) : Courier × Progress :=
  (courier.move .terminated).giveUp call.fresh

/-- Ask for a stream. The attempt counts even if delivery was called off before it. -/
def attempt (cancelled : Bool) (call : Call) (courier : Courier) : Courier × Progress :=
  let counted := courier.note .attempted
  if cancelled then counted.terminate call
  else
    ({ counted.note (.opening (courier.attempts + 1)) with attempts := courier.attempts + 1 },
      .waiting (.opening call))

/-- Sit out the delay after a refusal. -/
def pause (cancelled : Bool) (delay : Duration) (call : Call) (courier : Courier) :
    Courier × Progress :=
  if cancelled then courier.terminate call
  else (courier, .waiting (.backingOff delay call))

/-- See to it that the link is connected, and go on with the call. -/
def connect (cancelled : Bool) (call : Call) (courier : Courier) : Courier × Progress :=
  match courier.link with
  | .connected _ => courier.proceed call
  | .terminated => courier.giveUp call.fresh
  | .disconnected => (courier.move .connecting).attempt cancelled call
  | .connecting => courier.attempt cancelled call
  | .backoff delay => courier.pause cancelled delay call

/-! ## Closing -/

/-- Terminate the link. This is no change of state that anybody is told about. -/
def close (courier : Courier) : Courier × Progress :=
  let terminated := { courier with link := .terminated }
  match courier.link with
  | .connected stream => (terminated.note (.closing stream.attempt), .waiting .closing)
  | _ => (terminated.note .unlinked, .returned true)

/-! ## Steps -/

/-- Begin a call; `cancelled` says whether delivery has been called off. -/
def start (cancelled : Bool) (call : Call) (courier : Courier) : Courier × Progress :=
  match call with
  | .connect => courier.connect cancelled call
  | .tick none => courier.connect cancelled call
  | .tick (some snapshot) => (courier.note (.handedOver snapshot)).connect cancelled call
  | .shutdown => courier.close

/-- The answer to a request for a stream. -/
def answered (cancelled : Bool) (signal : Signal) (call : Call) (courier : Courier) :
    Courier × Progress :=
  match signal with
  | .cancelled => courier.terminate call
  | .done =>
    let opened := { courier.note (.opened courier.attempts) with backoff := courier.backoff.reset }
    (opened.move (.connected ⟨courier.attempts, 0⟩)).proceed call
  | .failed =>
    let delay := courier.backoff.nextDelay
    let refused :=
      { courier.note (.refused courier.attempts) with backoff := courier.backoff.advance }
    (refused.move (.backoff delay)).pause cancelled delay call

/-- The outcome of a send. -/
def settled (signal : Signal) (snapshot : Snapshot) (turn : Turn) (courier : Courier) :
    Courier × Progress :=
  let stream := match courier.link with
    | .connected stream => stream.attempt
    | _ => courier.attempts
  match signal with
  | .done =>
    let sent := courier.note (.sent stream snapshot)
    match turn with
    | .backlog fresh => (sent, .working (.drain fresh))
    | .fresh => (sent, .returned true)
  | .failed =>
    ((courier.note (.sendFailed stream snapshot)).move .disconnected,
      .working (.putBack snapshot turn))
  | .cancelled =>
    (courier.note (.sendAbandoned stream snapshot), .working (.putBack snapshot turn))

/-- Go on with a call whose wait has ended. -/
def resume (cancelled : Bool) (signal : Signal) (wait : Wait) (courier : Courier) :
    Courier × Progress :=
  match wait with
  | .opening call => courier.answered cancelled signal call
  | .backingOff _ call =>
    match signal with
    | .cancelled => courier.terminate call
    | _ => (courier.move .connecting).attempt cancelled call
  | .sending snapshot turn => courier.settled signal snapshot turn
  | .closing => (courier.note .unlinked, .returned true)

/-- Do the task that comes next, if one does. -/
def work (cancelled : Bool) : Courier × Progress → Courier × Progress
  | (courier, .working task) => courier.perform cancelled task
  | result => result

/-- Do all tasks up to the next wait or the return. Draining leads to putting back at
most, and putting back to keeping, so there are no more than three. -/
def settle (cancelled : Bool) (result : Courier × Progress) : Courier × Progress :=
  work cancelled (work cancelled (work cancelled result))

end Courier

end NodeTelemetry.Delivery
