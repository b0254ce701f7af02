/-
# Queries to the container runtime

Each of the four queries is a remote call: a path, a request message and a reply message
whose only field holds the listing. A listing may be restricted to one state. The
runtime has no number for an unknown sandbox state, so that one restricts nothing.
-/

import NodeTelemetry.Inventory.Messages
import NodeTelemetry.Snapshot.Workload

namespace NodeTelemetry.Inventory

open Protobuf Messages

/-- The calls. -/
inductive RuntimeCall where
  | listSandboxes (filter : Option SandboxState)
  | listSandboxStats
  | listContainers (filter : Option UnitState)
  | listContainerStats
  deriving DecidableEq

/-- The runtime's number of a sandbox state, if it has one. -/
def sandboxStateNumber? : SandboxState → Option Int32
  | .ready => some 0
  | .notReady => some 1
  | .unknown => none

/-- The runtime's number of a container state. -/
def unitStateNumber : UnitState → Int32
  | .created => 0
  | .running => 1
  | .exited => 2
  | .unknown => 3

namespace RuntimeCall

def service : String := "/runtime.v1.RuntimeService/"

/-- The name of the remote procedure. -/
def procedure : RuntimeCall → String
  | .listSandboxes _ => "ListPodSandbox"
  | .listSandboxStats => "ListPodSandboxStats"
  | .listContainers _ => "ListContainers"
  | .listContainerStats => "ListContainerStats"

def path (call : RuntimeCall) : String := service ++ call.procedure

/-- What the listing consists of. -/
def entry : RuntimeCall → Schema
  | .listSandboxes _ => podSandbox
  | .listSandboxStats => podSandboxStats
  | .listContainers _ => container
  | .listContainerStats => containerStats

/-- The name of the field of the reply that holds the listing. -/
def listingName : RuntimeCall → String
  | .listSandboxes _ => "items"
  | .listContainers _ => "containers"
  | _ => "stats"

/-- The reply message. -/
def reply (call : RuntimeCall) : Schema :=
  .field 1 call.listingName (.many call.entry) <|
  .done

/-- The request message, encoded. -/
def request : RuntimeCall → List UInt8
  | .listSandboxes filter =>
    let wanted : Option podSandboxFilter.Record :=
      (filter.bind sandboxStateNumber?).map fun number => ("", some (number, ()), ())
    listPodSandboxRequest.write (wanted, ())
  | .listSandboxStats => listPodSandboxStatsRequest.write listPodSandboxStatsRequest.empty
  | .listContainers filter =>
    let wanted : Option containerFilter.Record :=
      filter.map fun state => ("", some (unitStateNumber state, ()), "", ())
    listContainersRequest.write (wanted, ())
  | .listContainerStats => listContainerStatsRequest.write listContainerStatsRequest.empty

end RuntimeCall

/-! ## Answers -/

/-- How a call ends. -/
inductive Reply where
  /-- A message came back. -/
  | message (bytes : List UInt8)
  /-- A status came back without a message. -/
  | status (code : Int) (message : String)
  /-- Nobody listens at the socket. -/
  | unreachable
  deriving DecidableEq

/-- A failed call: the code of its status, and the message if the runtime sent one. -/
structure CallFailure where
  code : Nat
  message : Option String
  deriving DecidableEq

/-- The code of a failure that has no code of its own. -/
def unknownCode : Nat := 2

/-- The code of a reply that cannot be used. -/
def internalCode : Nat := 13

/-- The code of a call that reached nobody. -/
def unavailableCode : Nat := 14

/-- The largest code. -/
def mostCode : Int := 16

/-- The failure that a status stands for. A status that says that all is well should
have come with a message. -/
def failureOf (code : Int) (message : String) : CallFailure :=
  if code = 0 then ⟨internalCode, some "Missing response message."⟩
  else if 0 < code && code ≤ mostCode then ⟨code.toNat, some message⟩
  else ⟨unknownCode, some message⟩

/-- The wording of a failed call, without its causes. -/
def RuntimeCall.failureMessage (call : RuntimeCall) : String := call.procedure ++ " failed"

/-- The listing in a reply. -/
def RuntimeCall.listing (call : RuntimeCall) :
    Reply → Except CallFailure (List call.entry.Record)
  | .message bytes =>
    match call.reply.read? bytes with
    | some record => .ok record.1
    | none => .error ⟨internalCode, none⟩
  | .status code message => .error (failureOf code message)
  | .unreachable => .error ⟨unavailableCode, none⟩

end NodeTelemetry.Inventory
