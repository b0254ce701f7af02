/-
# Faults

What can go wrong without ending the program. Faults of a collection are returned
beside its snapshot, and faults of the delivery drive the link to the relay. A fault
is a cause; its wording is in one place, `Fault.message`.
-/

namespace NodeTelemetry

/-- The five sources of a collection, in the order in which their faults are reported. -/
inductive Source where
  | host
  | sandboxes
  | sandboxStats
  | containers
  | containerStats
  deriving DecidableEq, Repr

namespace Source

/-- All sources, in reporting order. -/
def all : List Source := [.host, .sandboxes, .sandboxStats, .containers, .containerStats]

/-- The four queries to the container runtime, in reporting order. -/
def runtime : List Source := [.sandboxes, .sandboxStats, .containers, .containerStats]

def name : Source → String
  | .host => "host"
  | .sandboxes => "sandboxes"
  | .sandboxStats => "sandbox_stats"
  | .containers => "containers"
  | .containerStats => "container_stats"

def ofName? (text : String) : Option Source := all.find? fun source => source.name == text

end Source

/-- What a container could not be joined to. -/
inductive Missing where
  | stats
  | sandbox
  deriving DecidableEq, Repr

def Missing.name : Missing → String
  | .stats => "stats"
  | .sandbox => "sandbox"

/-- The causes of faults. -/
inductive Fault where
  /-- A source failed or was late. -/
  | source (origin : Source) (message : String)
  /-- A container without a record to join it to. -/
  | correlationMiss (container sandbox : String) (missing : Missing)
  /-- The relay refused a stream. -/
  | deliveryOpen (message : String)
  /-- A stream broke while a snapshot was sent. -/
  | deliverySend (message : String)
  /-- A snapshot found no room in the backlog. -/
  | backlogOverflow (timestamp : Int64)
  deriving DecidableEq, Repr

namespace Fault

/-- Short label under which faults are counted. -/
def label : Fault → String
  | .source .. => "source"
  | .correlationMiss .. => "correlation_miss"
  | .deliveryOpen _ => "delivery_open"
  | .deliverySend _ => "delivery_send"
  | .backlogOverflow _ => "backlog_overflow"

/-- The wording of a fault. -/
def message : Fault → String
  | .source origin message => origin.name ++ " source failed: " ++ message
  | .correlationMiss container sandbox missing =>
    "container " ++ container ++ " in sandbox " ++ sandbox ++ " has no matching " ++ missing.name
  | .deliveryOpen message => "failed to open relay stream: " ++ message
  | .deliverySend message => "failed to send snapshot: " ++ message
  | .backlogOverflow timestamp =>
    "backlog full, dropped snapshot taken at " ++ toString timestamp.toInt

/-- The source that failed, if a source did. -/
def failedSource? : Fault → Option Source
  | .source origin _ => some origin
  | _ => none

end Fault

/-- The wording of a failure with its chain of causes, outermost first. -/
def causeChain (causes : List String) : String := ": ".intercalate causes

end NodeTelemetry
