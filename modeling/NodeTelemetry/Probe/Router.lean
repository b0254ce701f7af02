/-
# Probes over HTTP

Three resources tell how the program is doing: whether it works, whether it should get
traffic, and its metrics. They are read with GET or HEAD. The answer to a probe is that
nothing works only if a component is unhealthy; working with less is still working.
-/

import NodeTelemetry.Health.Json
import NodeTelemetry.Metrics.Exposition

namespace NodeTelemetry.Probe

/-- What a response carries. -/
inductive Body where
  | empty
  | json (value : Json)
  | text (content : String)

structure Response where
  status : Nat
  mediaType : Option String := none
  /-- The methods that would have been understood. -/
  allow : Option String := none
  body : Body := .empty

/-- What can be read. -/
inductive Resource where
  | health
  | readiness
  | metrics
  deriving DecidableEq, Repr

/-- The resource under a path. Paths are compared exactly. -/
def resourceAt? (path : String) : Option Resource :=
  match path with
  | "/healthz" => some .health
  | "/readyz" => some .readiness
  | "/metrics" => some .metrics
  | _ => none

/-- The part of a request target before the query. -/
def pathOf (target : String) : String :=
  String.ofList (target.toList.takeWhile (· != '?'))

def jsonMediaType : String := "application/json"

/-- Status of a response about something that works or does not. -/
def statusOf (works : Bool) : Nat := if works then 200 else 503

/-- The response to reading a resource. -/
def read (registry : Health.Registry) (metrics : Metrics) : Resource → Response
  | .health =>
    { status := statusOf (registry.status ≠ .unhealthy)
      mediaType := some jsonMediaType
      body := .json registry.healthAnswer.toJson }
  | .readiness =>
    { status := statusOf registry.unreadyReason?.isNone
      mediaType := some jsonMediaType
      body := .json registry.readinessAnswer.toJson }
  | .metrics =>
    { status := 200, mediaType := some Metrics.mediaType, body := .text metrics.exposition }

/-- The methods by which resources are read. -/
def allowedMethods : String := "GET,HEAD"

/-- The response to a request. -/
def respond (registry : Health.Registry) (metrics : Metrics) (method target : String) :
    Response :=
  match resourceAt? (pathOf target) with
  | none => { status := 404 }
  | some resource =>
    if method = "GET" then read registry metrics resource
    else if method = "HEAD" then { read registry metrics resource with body := .empty }
    else { status := 405, allow := some allowedMethods }

end NodeTelemetry.Probe
