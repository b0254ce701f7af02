/-
# How long the delays are

Delays double from the initial one on until they reach the longest, and start over when
they are reset. Their length is given here in nanoseconds, without the bound of durations:
a delay that would be longer than any duration is the longest one in any case.
-/

import NodeTelemetry.Delivery.Backoff

namespace NodeTelemetry

theorem Duration.nanos_shorter (first second : Duration) :
    (first.shorter second).nanos = min first.nanos second.nanos := by
  unfold shorter
  split <;> omega

theorem Duration.nanos_double_shorter (duration longest : Duration) :
    (duration.double.shorter longest).nanos = min (2 * duration.nanos) longest.nanos := by
  have bounded := longest.nanos_le
  rw [nanos_shorter]
  change min (min (2 * duration.nanos) mostNanos) longest.nanos = _
  omega

namespace Backoff

variable (initial longest : Duration)

/-- The delays after a number of refusals in a row. -/
def after : Nat → Backoff
  | 0 => start initial longest
  | refusals + 1 => (after refusals).advance

/-- The nanoseconds of the delay that follows on a number of earlier refusals. -/
def delayNanos (refusals : Nat) : Nat :=
  min (min initial.nanos longest.nanos * Nat.pow 2 refusals) longest.nanos

theorem longest_after (refusals : Nat) : (after initial longest refusals).longest = longest := by
  induction refusals with
  | zero => rfl
  | succ refusals ih => exact ih

/-- Resetting forgets all refusals. -/
theorem reset_after (refusals : Nat) :
    (after initial longest refusals).reset = after initial longest 0 := by
  induction refusals with
  | zero => rfl
  | succ refusals ih => exact ih

/-- The delay after a number of refusals, in closed form. -/
theorem nanos_nextDelay_after (refusals : Nat) :
    (after initial longest refusals).nextDelay.nanos = delayNanos initial longest refusals := by
  induction refusals with
  | zero =>
      change (initial.shorter longest).nanos =
        min (min initial.nanos longest.nanos * 1) longest.nanos
      rw [Duration.nanos_shorter]
      omega
  | succ refusals ih =>
      change ((after initial longest refusals).nextDelay.double.shorter
        (after initial longest refusals).longest).nanos = _
      rw [longest_after, Duration.nanos_double_shorter, ih]
      unfold delayNanos
      change _ = min (_ * (Nat.pow 2 refusals * 2)) _
      rw [← Nat.mul_assoc]
      generalize min initial.nanos longest.nanos * Nat.pow 2 refusals = grown
      omega

/-- The delays unless configured, in seconds. -/
example : (List.range 7).map (delayNanos (.ofSeconds 1) (.ofSeconds 30)) =
    [1, 2, 4, 8, 16, 30, 30].map (· * nanosPerSecond) := by decide

theorem delayNanos_le_longest (refusals : Nat) :
    delayNanos initial longest refusals ≤ longest.nanos :=
  Nat.min_le_right _ _

theorem delayNanos_mono {fewer more : Nat} (grows : fewer ≤ more) :
    delayNanos initial longest fewer ≤ delayNanos initial longest more := by
  have power : Nat.pow 2 fewer ≤ Nat.pow 2 more := Nat.pow_le_pow_right (by decide) grows
  have product := Nat.mul_le_mul_left (min initial.nanos longest.nanos) power
  unfold delayNanos
  omega

end Backoff

end NodeTelemetry
