/-
# Scripted relays

A relay for rehearsals follows a script: one plan for each attempt to open a stream. An
attempt without a plan is refused at once.
-/

import NodeTelemetry.Delivery.Session

namespace NodeTelemetry.Delivery

/-- What happens to one attempt and on the stream that it opens. Sends are numbered
from one. -/
structure AttemptPlan where
  refuses : Bool := false
  /-- Nanoseconds until the attempt is answered. -/
  openDelay : Nat := 0
  /-- Nanoseconds until a send ends. -/
  sendDelay : Nat := 0
  /-- The send that never ends. -/
  hangsOn : Option Nat := none
  /-- The send that fails. -/
  failsOn : Option Nat := none
  /-- Snapshots that others add to the backlog just before the send fails. -/
  arrivals : List Snapshot := []
  deriving DecidableEq

/-- The end of a send on a stream. -/
def AttemptPlan.sending (plan : AttemptPlan) (number : Nat) : Sending :=
  let fails := plan.failsOn == some number
  { after := if plan.hangsOn = some number then none else some plan.sendDelay
    succeeds := !fails
    arrivals := if fails then plan.arrivals else [] }

/-- The plan of an attempt; attempts are numbered from one. -/
def planOf? (script : List (Option AttemptPlan)) (attempt : Nat) : Option AttemptPlan :=
  (script[attempt - 1]?).join

/-- The relay that follows a script. From attempt `cancelFrom` on, if it is given, each
attempt calls delivery off. -/
def Peer.ofScript (script : List (Option AttemptPlan)) (cancelFrom : Option Nat) : Peer where
  opening attempt :=
    let plan := planOf? script attempt
    { after := some ((plan.map (·.openDelay)).getD 0)
      accepts := (plan.map (!·.refuses)).getD false
      cancels := (cancelFrom.map (decide <| · ≤ attempt)).getD false }
  sending attempt number := ((planOf? script attempt).getD {}).sending number

end NodeTelemetry.Delivery
