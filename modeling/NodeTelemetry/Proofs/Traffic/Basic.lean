/-
# Traffic

A courier shares its hub with the loop that records collections and with anybody else
who adds snapshots. Traffic is what they do together: the courier's calls, cut into
pieces with one access to the backlog each, and in between whatever the others do, in
every order. A run of traffic is kept as data, so that what came in, what arrived and
what was handed back can be read off it.

The relay, the clock and the one who calls delivery off are not part of traffic. A wait
may end in any way and at any time or never, and every act that asks whether delivery
was called off carries the answer; so all their behaviours are among the runs.
-/

import NodeTelemetry.Collection.Collector
import NodeTelemetry.Delivery.Courier
import NodeTelemetry.Proofs.Traffic.Cargo

namespace NodeTelemetry

universe u

/-- A courier, and where its latest call stands. -/
structure Traffic where
  courier : Delivery.Courier
  progress : Delivery.Progress

/-- What is done in one piece. -/
inductive Act where
  /-- The courier is called. -/
  | call (cancelled : Bool) (call : Delivery.Call)
  /-- The courier does the task at hand. -/
  | work (cancelled : Bool)
  /-- The wait of the call ends. -/
  | answer (cancelled : Bool) (signal : Delivery.Signal)
  /-- The findings of a collection are recorded. -/
  | record (findings : Collection.Findings) (elapsed : Nat)
  /-- Somebody else adds a snapshot. -/
  | offer (snapshot : Snapshot)
  /-- One of the loops writes down what it is doing. -/
  | remark (event : Event)
  /-- Time passes. -/
  | pass (moment : Nat)

/-- The remarks of the loops: beginning and giving up a collection, taking stock after a
round of delivery, and asking for a verdict. -/
def Event.isRemark : Event → Bool
  | .collecting _ | .discarded _ | .surveyed .. | .reported _ => true
  | _ => false

namespace Traffic

open Delivery

def of (result : Courier × Progress) : Traffic := ⟨result.1, result.2⟩

def hub (traffic : Traffic) : Hub := traffic.courier.hub

def journal (traffic : Traffic) : Journal := traffic.hub.journal

def modifyHub (change : Hub → Hub) (traffic : Traffic) : Traffic :=
  { traffic with courier := { traffic.courier with hub := change traffic.courier.hub } }

/-- A courier on an empty hub that was not called yet. -/
def initial (epoch : Int64) (capacity : Nat) (backoff : Backoff) : Traffic where
  courier := { hub := Hub.start epoch capacity, backoff }
  progress := .returned false

/-- The acts that are possible and what each comes to. A courier is called only when it
has returned from the call before. -/
inductive Step : Traffic → Act → Traffic → Prop where
  | call {courier : Courier} {success : Bool} (cancelled : Bool) (call : Call) :
      Step ⟨courier, .returned success⟩ (.call cancelled call)
        (of (courier.start cancelled call))
  | work {courier : Courier} {task : Task} (cancelled : Bool) :
      Step ⟨courier, .working task⟩ (.work cancelled) (of (courier.perform cancelled task))
  | answer {courier : Courier} {wait : Wait} (cancelled : Bool) (signal : Signal) :
      Step ⟨courier, .waiting wait⟩ (.answer cancelled signal)
        (of (courier.resume cancelled signal wait))
  | record {traffic : Traffic} (findings : Collection.Findings) (elapsed : Nat) :
      Step traffic (.record findings elapsed)
        (traffic.modifyHub (Collection.record findings elapsed))
  | offer {traffic : Traffic} (snapshot : Snapshot) :
      Step traffic (.offer snapshot) (traffic.modifyHub fun hub => (hub.offer snapshot).2)
  | remark {traffic : Traffic} {event : Event} (isRemark : event.isRemark = true) :
      Step traffic (.remark event) (traffic.modifyHub (·.note event))
  | pass {traffic : Traffic} (moment : Nat) :
      Step traffic (.pass moment) (traffic.modifyHub (·.waitUntil moment))

/-- What was done from one state of traffic to another, act by act. -/
inductive Run (origin : Traffic) : Traffic → Type where
  | start : Run origin origin
  | extend {traffic next : Traffic} (run : Run origin traffic) (act : Act)
      (step : Step traffic act next) : Run origin next

namespace Run

variable {origin traffic : Traffic}

/-- What can be seen of each act in the state in which it is done, in order. -/
def collect {α : Type u} (view : Traffic → Act → List α) {traffic : Traffic} :
    Run origin traffic → List α
  | .start => []
  | @Run.extend _ before _ run act _ => run.collect view ++ view before act

end Run

/-! ## Where snapshots are -/

end Traffic

namespace Delivery

/-- The popped snapshot that is in somebody's turn. -/
def Turn.popped? (snapshot : Snapshot) : Turn → Option Snapshot
  | .backlog _ => some snapshot
  | .fresh => none

/-- The fresh snapshot that is held in somebody's turn. -/
def Turn.fresh? (snapshot : Snapshot) : Turn → Option Snapshot
  | .backlog later => later
  | .fresh => some snapshot

/-- The snapshot that a call has popped and neither delivered nor put back. -/
def Progress.popped? : Progress → Option Snapshot
  | .working (.putBack snapshot turn) => turn.popped? snapshot
  | .waiting (.sending snapshot turn) => turn.popped? snapshot
  | _ => none

/-- The fresh snapshot that a call holds. -/
def Progress.fresh? : Progress → Option Snapshot
  | .working (.drain fresh) => fresh
  | .working (.putBack snapshot turn) => turn.fresh? snapshot
  | .working (.keep snapshot) => some snapshot
  | .waiting (.opening call) => call.fresh
  | .waiting (.backingOff _ call) => call.fresh
  | .waiting (.sending snapshot turn) => turn.fresh? snapshot
  | .waiting .closing => none
  | .returned _ => none

/-- The move of a task. Draining pops nothing once delivery was called off. -/
def Task.move (cancelled : Bool) : Task → Move Snapshot
  | .drain _ => if cancelled then .stay else .pop
  | .putBack .. => .putBack
  | .keep _ => .keep

/-- The move with which a wait ends. Only a send that succeeds moves anything. -/
def Wait.move (signal : Signal) : Wait → Move Snapshot
  | .sending .. => if signal = .done then .deliver else .stay
  | _ => .stay

end Delivery

/-- The cargo of a hub while no call holds anything. -/
def Hub.cargo (hub : Hub) : Cargo Snapshot where
  backlog := hub.backlog
  sent := hub.journal.sent
  dropped := hub.journal.dropped
  displaced := hub.journal.displaced

namespace Traffic

open Delivery

def cargo (traffic : Traffic) : Cargo Snapshot :=
  { traffic.hub.cargo with
    popped := traffic.progress.popped?
    fresh := traffic.progress.fresh? }

/-- The move that an act makes with the cargo. -/
def move (traffic : Traffic) (act : Act) : Move Snapshot :=
  match act, traffic.progress with
  | .call _ call, _ => .handOver call.fresh
  | .work cancelled, .working task => task.move cancelled
  | .answer _ signal, .waiting wait => wait.move signal
  | .record findings _, _ => .add findings.snapshot
  | .offer snapshot, _ => .offer snapshot
  | _, _ => .stay

/-! ## What is seen of an act -/

/-- The fresh snapshot that a courier is called with. -/
def handing (_ : Traffic) : Act → List Snapshot
  | .call _ call => call.fresh.toList
  | _ => []

/-- The snapshot that is added to the backlog by the others: the one of a collection, or
one that somebody else has. -/
def adding (_ : Traffic) : Act → List Snapshot
  | .record findings _ => [findings.snapshot]
  | .offer snapshot => [snapshot]
  | _ => []

/-- The snapshots that come in. -/
def entering (traffic : Traffic) (act : Act) : List Snapshot :=
  traffic.handing act ++ traffic.adding act

/-- The snapshot that a stream takes. -/
def taking (traffic : Traffic) (act : Act) : List Snapshot :=
  match act, traffic.progress with
  | .answer _ .done, .waiting (.sending snapshot _) => [snapshot]
  | _, _ => []

/-- The snapshot that is lost by one of the loops, with the reason: the oldest one has
to make room for an added one, or one that was not sent finds no room any more. -/
def losing (traffic : Traffic) (act : Act) : List (Snapshot × Log.DropReason) :=
  match act, traffic.progress with
  | .record findings _, _ =>
    (traffic.hub.backlog.add findings.snapshot).1.toList.map (·, .overwritten)
  | .work _, .working (.keep snapshot) =>
    (traffic.hub.backlog.add snapshot).1.toList.map (·, .overwritten)
  | .work _, .working (.putBack snapshot _) =>
    match traffic.hub.backlog.requeue? snapshot with
    | some _ => []
    | none => [(snapshot, .requeueOverflow)]
  | _, _ => []

/-- The snapshot that is returned to somebody else who adds one to a full backlog. -/
def returning (traffic : Traffic) : Act → List Snapshot
  | .offer snapshot => (traffic.hub.offer snapshot).1.toList
  | _ => []

/-- A run with room for two snapshots, in which two are added while the one before them is
being sent. Its send fails, and it does not fit in again; the next call sends the second
one. -/
def Run.crowded : (traffic : Traffic) × Run (initial 0 2 .standard) traffic :=
  ⟨_, Run.start
    |>.extend _ (.offer (.bare 1))
    |>.extend _ (.call false (.tick none))
    |>.extend _ (.answer false .done)
    |>.extend _ (.work false)
    |>.extend _ (.offer (.bare 2))
    |>.extend _ (.offer (.bare 3))
    |>.extend _ (.answer false .failed)
    |>.extend _ (.work false)
    |>.extend _ (.call false (.tick none))
    |>.extend _ (.answer false .done)
    |>.extend _ (.work false)
    |>.extend _ (.answer false .done)⟩

end Traffic

end NodeTelemetry
