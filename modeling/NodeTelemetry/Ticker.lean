/-
# Tickers

A loop works in rounds, and a ticker says when the next round is due: the first at the
beginning, each further one an interval after the one before was due. A round that
begins more than the tolerance late shifts the ones after it, so that rounds never
follow each other in a burst.
-/

import NodeTelemetry.Duration

namespace NodeTelemetry

/-- An interval and the moment at which the next round is due, in nanoseconds. -/
structure Ticker where
  interval : Nat
  due : Nat
  deriving DecidableEq

namespace Ticker

/-- How late a round may begin without shifting the next one. -/
def tolerance : Nat := 5 * nanosPerMilli

/-- A ticker whose first round is due at `moment`. -/
def start (interval moment : Nat) : Ticker := ⟨interval, moment⟩

/-- The ticker after a round that began at `moment`. -/
def take (ticker : Ticker) (moment : Nat) : Ticker :=
  { ticker with
    due := (if ticker.due + tolerance < moment then moment else ticker.due) + ticker.interval }

end Ticker

end NodeTelemetry
