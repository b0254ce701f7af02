/-
# Sockets of container runtimes

The runtime listens on a local socket. Unless one is configured, the first of the usual
places is taken at which there is something that is not a directory.
-/

namespace NodeTelemetry.Inventory

/-- The usual places, most likely first. -/
def usualSockets : List String :=
  ["/run/containerd/containerd.sock", "/var/run/containerd/containerd.sock",
    "/var/run/crio/crio.sock", "/var/run/dockershim.sock"]

/-- What is found at a path once links are followed. -/
inductive Finding where
  | nothing
  | directory
  /-- A file or a socket. -/
  | present
  deriving DecidableEq, Repr

/-- The first candidate at which there is something that is not a directory. -/
def firstSocket? (look : String → Finding) (candidates : List String) : Option String :=
  candidates.find? fun path => look path == .present

/-- A search without result. -/
structure NoSocket where
  tried : List String
  deriving DecidableEq, Repr

def NoSocket.message (fault : NoSocket) : String :=
  "No container runtime socket found (tried: " ++ ", ".intercalate fault.tried ++ ")"

/-- Search among candidates. -/
def discoverSocket (look : String → Finding) (candidates : List String) :
    Except NoSocket String :=
  match firstSocket? look candidates with
  | some path => .ok path
  | none => .error ⟨candidates⟩

/-- The scheme that an endpoint may have. -/
def socketScheme : String := "unix://"

/-- The path of a socket that is given by its path or by an endpoint. -/
def socketPath (endpoint : String) : String :=
  if socketScheme.toList.isPrefixOf endpoint.toList then
    String.ofList (endpoint.toList.drop socketScheme.length)
  else endpoint

end NodeTelemetry.Inventory
