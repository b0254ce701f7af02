/-
# Sizing the backlog

The backlog holds as many snapshots as are taken in the retention window: the window
divided by the interval, rounded up, at least one, and at most what a 64-bit size can
say. An interval of zero gives room for one.
-/

import NodeTelemetry.Duration

namespace NodeTelemetry

/-- Largest number of slots. -/
def mostSlots : Nat := 0x10000000000000000 - 1

/-- Quotient rounded up. -/
def ceilDiv (num den : Nat) : Nat := (num + den - 1) / den

/-- Number of snapshots in one retention window. -/
def capacityFor (retention interval : Duration) : Nat :=
  if interval.nanos = 0 then 1
  else max 1 (min mostSlots (ceilDiv retention.nanos interval.nanos))

end NodeTelemetry
