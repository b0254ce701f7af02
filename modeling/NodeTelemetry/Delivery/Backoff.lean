/-
# Delays between connection attempts

After a refused attempt the next one waits. The first delay is the initial one, each
further delay is twice the one before, and none is longer than the longest allowed. An
accepted attempt makes the delays start over.
-/

import NodeTelemetry.Duration

namespace NodeTelemetry

/-- Where the delays start, where they stop growing, and the latest one. -/
structure Backoff where
  initial : Duration
  longest : Duration
  latest : Option Duration
  deriving DecidableEq

namespace Backoff

/-- Delays that start at `initial` and never exceed `longest`. -/
def start (initial longest : Duration) : Backoff :=
  ⟨initial.shorter longest, longest, none⟩

/-- One second at first and at most half a minute. -/
def standard : Backoff := start (.ofSeconds 1) (.ofSeconds 30)

/-- The delay after one more refusal. -/
def nextDelay (backoff : Backoff) : Duration :=
  match backoff.latest with
  | none => backoff.initial
  | some latest => latest.double.shorter backoff.longest

/-- The state after that delay was given out. -/
def advance (backoff : Backoff) : Backoff :=
  { backoff with latest := some backoff.nextDelay }

/-- Forget the refusals. -/
def reset (backoff : Backoff) : Backoff :=
  { backoff with latest := none }

end Backoff

end NodeTelemetry
