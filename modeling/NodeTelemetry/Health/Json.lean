/-
# The JSON form of health answers

The liveness answer is the worst status and an object with one member for each judged
component; the readiness answer is a flag. A message or a reason is left out when
there is none. When a component object is read, the last of two equal names counts.
-/

import NodeTelemetry.Health.Registry
import NodeTelemetry.Json.Value

namespace NodeTelemetry.Health

def Status.toJson (status : Status) : Json := .text status.name

def Status.ofJson? (json : Json) : Option Status := do
  Status.ofName? (← json.caseName?)

/-- A member that is left out when its value is absent. -/
def optionalMember (name : String) (value : Option String) : List (String × Json) :=
  (value.map fun text => (name, Json.text text)).toList

def Entry.toJson (entry : Entry) : Json :=
  .object (("status", entry.verdict.status.toJson) ::
    optionalMember "message" entry.verdict.message ++
    [("last_check_timestamp", .ofInt64 entry.checkedAt)])

def Entry.ofJson? (json : Json) : Option Entry := do
  let [status, message, checkedAt] ← json.slots? ["status", "message", "last_check_timestamp"]
    | none
  let status ← Json.required? Status.ofJson? status
  let message ← Json.optional? Json.text? message
  let checkedAt ← Json.required? Json.int64? checkedAt
  return ⟨⟨status, message⟩, checkedAt⟩

/-- A liveness answer. -/
structure HealthAnswer where
  status : Status
  components : List (String × Entry)
  deriving DecidableEq

/-- A readiness answer. -/
structure ReadinessAnswer where
  ready : Bool
  reason : Option String
  deriving DecidableEq

def Registry.healthAnswer (registry : Registry) : HealthAnswer where
  status := registry.status
  components := registry.entries.map fun (component, entry) => (component.name, entry)

def Registry.readinessAnswer (registry : Registry) : ReadinessAnswer where
  ready := registry.unreadyReason?.isNone
  reason := registry.unreadyReason?

/-- Put a value under a name, in the place of an earlier one. -/
def putMember (members : List (String × α)) (name : String) (value : α) : List (String × α) :=
  if members.any fun (other, _) => other == name then
    members.map fun (other, old) => if other = name then (other, value) else (other, old)
  else members ++ [(name, value)]

def HealthAnswer.toJson (answer : HealthAnswer) : Json :=
  .object [("status", answer.status.toJson),
    ("components", .object (answer.components.map fun (name, entry) => (name, entry.toJson)))]

def componentsOfJson? : Json → Option (List (String × Entry))
  | .object members =>
    members.foldlM (fun read (name, json) => (Entry.ofJson? json).map (putMember read name ·)) []
  | _ => none

def HealthAnswer.ofJson? (json : Json) : Option HealthAnswer := do
  let [status, components] ← json.slots? ["status", "components"] | none
  return {
    status := ← Json.required? Status.ofJson? status
    components := ← Json.required? componentsOfJson? components }

def ReadinessAnswer.toJson (answer : ReadinessAnswer) : Json :=
  .object (("ready", .bool answer.ready) :: optionalMember "reason" answer.reason)

def ReadinessAnswer.ofJson? (json : Json) : Option ReadinessAnswer := do
  let [ready, reason] ← json.slots? ["ready", "reason"] | none
  return {
    ready := ← Json.required? Json.bool? ready
    reason := ← Json.optional? Json.text? reason }

end NodeTelemetry.Health
