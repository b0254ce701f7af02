/-
# States of the link to the relay

The link starts disconnected. It connects, backs off after a refusal and tries again;
a failed send disconnects it; once terminated it stays so.
-/

namespace NodeTelemetry

/-- The state of the link, without what belongs to the state. -/
inductive LinkState where
  | disconnected
  | connecting
  | backoff
  | connected
  | terminated
  deriving DecidableEq, Repr

namespace LinkState

def name : LinkState → String
  | .disconnected => "disconnected"
  | .connecting => "connecting"
  | .backoff => "backoff"
  | .connected => "connected"
  | .terminated => "terminated"

def all : List LinkState := [.disconnected, .connecting, .backoff, .connected, .terminated]

def ofName? (text : String) : Option LinkState := all.find? fun state => state.name == text

/-- The edges of the state diagram. -/
def Edge : LinkState → LinkState → Prop
  | .disconnected, .connecting => True
  | .connecting, .connected => True
  | .connecting, .backoff => True
  | .connecting, .terminated => True
  | .backoff, .connecting => True
  | .backoff, .terminated => True
  | .connected, .disconnected => True
  | _, _ => False

end LinkState

end NodeTelemetry
