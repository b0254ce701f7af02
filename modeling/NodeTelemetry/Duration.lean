/-
# Durations

A duration is a whole number of nanoseconds, at most the largest that 64-bit seconds
and a part below one second can say. Sums and multiples that would be larger are that
largest duration.
-/

namespace NodeTelemetry

/-- Nanoseconds in a second. -/
def nanosPerSecond : Nat := 1000000000

/-- Nanoseconds in a millisecond. -/
def nanosPerMilli : Nat := 1000000

/-- Nanoseconds of the largest duration. -/
def mostNanos : Nat := 0x10000000000000000 * nanosPerSecond - 1

/-- A bounded number of nanoseconds. -/
structure Duration where
  nanos : Nat
  nanos_le : nanos ≤ mostNanos

namespace Duration

theorem ext {first second : Duration} (h : first.nanos = second.nanos) : first = second := by
  cases first
  cases second
  simp_all

instance : DecidableEq Duration := fun first second =>
  if h : first.nanos = second.nanos then isTrue (ext h)
  else isFalse fun same => h (congrArg nanos same)

/-- The duration with so many nanoseconds, or the largest one. -/
def ofNanos (nanos : Nat) : Duration := ⟨min nanos mostNanos, Nat.min_le_right ..⟩

def ofMillis (millis : Nat) : Duration := ofNanos (millis * nanosPerMilli)

def ofSeconds (seconds : Nat) : Duration := ofNanos (seconds * nanosPerSecond)

/-- Seconds and a part of a second in nanoseconds. -/
def ofParts (seconds nanos : Nat) : Duration := ofNanos (seconds * nanosPerSecond + nanos)

def zero : Duration := ofNanos 0

instance : Inhabited Duration := ⟨zero⟩

/-- Whole seconds. -/
def seconds (duration : Duration) : Nat := duration.nanos / nanosPerSecond

/-- Nanoseconds beyond the whole seconds. -/
def subsecond (duration : Duration) : Nat := duration.nanos % nanosPerSecond

/-- The shorter of two durations. -/
def shorter (first second : Duration) : Duration :=
  if first.nanos ≤ second.nanos then first else second

/-- Twice as long, or the largest duration. -/
def double (duration : Duration) : Duration := ofNanos (2 * duration.nanos)

end Duration

end NodeTelemetry
