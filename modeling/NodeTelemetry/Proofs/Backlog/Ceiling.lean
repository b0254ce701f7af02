/-
# The exact number of slots

The number of slots is the least one whose intervals cover the window, unless a size cannot
say it. What has to be true of such a number follows from that: more of the window never
takes fewer slots, and longer intervals never take more.

Durations come as seconds and a part of a second, and what is made of them on the way has
to fit in words of 128 bits. So the calculation is written down once more, step by step and
with every step refused that would overflow or divide by zero. None is ever refused, and the
number is the same.
-/

import Mathlib.Order.Bounds.Basic
import NodeTelemetry.Proofs.Backlog.Sizing

namespace NodeTelemetry

/-! ## In words -/

/-- The largest number in a word of 128 bits. -/
def mostWord : Nat := 0x100000000000000000000000000000000 - 1

/-- A number that has to fit in a word. -/
def word? (n : Nat) : Option Nat := if n ≤ mostWord then some n else none

theorem word?_eq {n : Nat} (fits : n ≤ mostWord) : word? n = some n := if_pos fits

/-- The quotient rounded up: one more than the quotient rounded down if there is a rest. -/
def ceilDivInWords? (num den : Nat) : Option Nat :=
  if den = 0 then none
  else if num % den = 0 then some (num / den)
  else word? (num / den + 1)

/-- The nanoseconds of a duration, from its seconds and the part of a second. -/
def Duration.nanosInWords? (duration : Duration) : Option Nat := do
  let whole ← word? (duration.seconds * nanosPerSecond)
  word? (whole + duration.subsecond)

/-- The number of snapshots in one retention window. -/
def capacityInWords? (retention interval : Duration) : Option Nat :=
  if interval.seconds = 0 ∧ interval.subsecond = 0 then some 1
  else do
    let slots ← ceilDivInWords? (← retention.nanosInWords?) (← interval.nanosInWords?)
    return max (if slots ≤ mostSlots then slots else mostSlots) 1

theorem Duration.nanos_eq_parts (duration : Duration) :
    duration.seconds * nanosPerSecond + duration.subsecond = duration.nanos :=
  Nat.div_add_mod' duration.nanos nanosPerSecond

theorem Duration.nanos_le_mostWord (duration : Duration) : duration.nanos ≤ mostWord := by
  have bounded := duration.nanos_le
  unfold mostNanos nanosPerSecond at bounded
  unfold mostWord
  omega

theorem Duration.nanosInWords?_eq (duration : Duration) :
    duration.nanosInWords? = some duration.nanos := by
  have parts := duration.nanos_eq_parts
  have fits := duration.nanos_le_mostWord
  have whole : duration.seconds * nanosPerSecond ≤ mostWord := by omega
  unfold nanosInWords?
  rw [word?_eq whole, Option.bind_eq_bind, Option.bind_some, parts, word?_eq fits]

/-- Where there is a rest, the quotient is less than the number that was divided, so one more
fits in a word as well. -/
theorem ceilDivInWords?_eq {num den : Nat} (pos : 0 < den) (fits : num ≤ mostWord) :
    ceilDivInWords? num den = some (ceilDiv num den) := by
  have enough := le_ceilDiv_mul num pos
  have whole := Nat.div_add_mod' num den
  unfold ceilDivInWords?
  rw [if_neg (Nat.ne_of_gt pos)]
  split
  · next even =>
      have exact : num / den = ceilDiv num den := by
        refine Nat.le_antisymm ?_ ((ceilDiv_le_iff pos).mpr ?_)
        · exact Nat.div_le_of_le_mul (Nat.mul_comm _ _ ▸ enough)
        · omega
      rw [exact]
  · next uneven =>
      have rest := Nat.mod_lt num pos
      have exact : num / den + 1 = ceilDiv num den := by
        refine Nat.le_antisymm ?_ ((ceilDiv_le_iff pos).mpr ?_)
        · exact Nat.lt_of_mul_lt_mul_right (a := den) (by omega)
        · rw [Nat.add_mul]
          omega
      have less := Nat.le_mul_of_pos_right (num / den) pos
      rw [word?_eq (by omega), exact]

variable (retention interval : Duration)

theorem capacityFor_of_idle (idle : interval.nanos = 0) : capacityFor retention interval = 1 :=
  if_pos idle

theorem capacityInWords?_eq :
    capacityInWords? retention interval = some (capacityFor retention interval) := by
  have parts := interval.nanos_eq_parts
  have idle : (interval.seconds = 0 ∧ interval.subsecond = 0) ↔ interval.nanos = 0 := by
    unfold nanosPerSecond at parts
    omega
  unfold capacityInWords? capacityFor
  split
  · next zero => rw [if_pos (idle.mp zero)]
  · next timed =>
      have pos : 0 < interval.nanos := Nat.pos_of_ne_zero fun zero => timed (idle.mpr zero)
      rw [Duration.nanosInWords?_eq, Duration.nanosInWords?_eq, if_neg (Nat.ne_of_gt pos)]
      change (ceilDivInWords? retention.nanos interval.nanos).bind _ = _
      rw [ceilDivInWords?_eq pos retention.nanos_le_mostWord, Option.bind_some, Nat.max_comm]
      congr 2
      split <;> omega

/-! ## The least number -/

variable {retention interval}

/-- Enough slots are at least one, and they cover the window. -/
def enoughSlots (retention interval : Duration) : Set Nat :=
  {slots | 1 ≤ slots ∧ retention.nanos ≤ slots * interval.nanos}

theorem isLeast_ceilDiv (pos : 0 < interval.nanos) :
    IsLeast (enoughSlots retention interval)
      (max 1 (ceilDiv retention.nanos interval.nanos)) := by
  refine ⟨⟨Nat.le_max_left _ _, ?_⟩, fun slots enough => ?_⟩
  · exact (ceilDiv_le_iff pos).mp (Nat.le_max_right _ _)
  · exact Nat.max_le.mpr ⟨enough.1, (ceilDiv_le_iff pos).mpr enough.2⟩

theorem capacityFor_eq_min (pos : 0 < interval.nanos) :
    capacityFor retention interval =
      min mostSlots (max 1 (ceilDiv retention.nanos interval.nanos)) := by
  have room : 1 ≤ mostSlots := by decide
  unfold capacityFor
  rw [if_neg (Nat.ne_of_gt pos)]
  omega

/-- Where fewer slots are enough, no more are taken. -/
theorem capacityFor_le_of_enough {other slower : Duration} (pos : 0 < interval.nanos)
    (posOther : 0 < slower.nanos)
    (wider : enoughSlots other slower ⊆ enoughSlots retention interval) :
    capacityFor retention interval ≤ capacityFor other slower := by
  have fewer := (isLeast_ceilDiv posOther).mono (isLeast_ceilDiv pos) wider
  rw [capacityFor_eq_min pos, capacityFor_eq_min posOther]
  omega

/-- What the number of slots for a window is. -/
structure SizedExactly (retention interval : Duration) : Prop where
  /-- An interval of zero takes one slot. -/
  idle : interval.nanos = 0 → capacityFor retention interval = 1
  /-- Any other one takes the least number of slots that are enough, or as many as a size can
  say. -/
  least : interval.nanos ≠ 0 → ∃ slots, IsLeast (enoughSlots retention interval) slots ∧
    capacityFor retention interval = min mostSlots slots
  positive : 1 ≤ capacityFor retention interval
  /-- A longer window takes no fewer slots. -/
  monotone : ∀ longer : Duration, retention.nanos ≤ longer.nanos →
    capacityFor retention interval ≤ capacityFor longer interval
  /-- A longer interval takes no more of them. -/
  antitone : interval.nanos ≠ 0 → ∀ slower : Duration, interval.nanos ≤ slower.nanos →
    capacityFor retention slower ≤ capacityFor retention interval
  /-- The calculation in words comes to the number: nothing overflows, and nothing is divided
  by zero. -/
  inWords : capacityInWords? retention interval = some (capacityFor retention interval)

/-- The number of slots is exact for all durations. -/
theorem sized_exactly (retention interval : Duration) : SizedExactly retention interval := by
  refine ⟨capacityFor_of_idle retention interval, ?_, ?_, ?_, ?_,
    capacityInWords?_eq retention interval⟩
  · intro timed
    have pos := Nat.pos_of_ne_zero timed
    exact ⟨_, isLeast_ceilDiv pos, capacityFor_eq_min pos⟩
  · unfold capacityFor
    split <;> omega
  · intro longer grows
    rcases Nat.eq_zero_or_pos interval.nanos with idle | pos
    · rw [capacityFor_of_idle _ _ idle, capacityFor_of_idle _ _ idle]
    · exact capacityFor_le_of_enough pos pos fun slots enough =>
        ⟨enough.1, Nat.le_trans grows enough.2⟩
  · intro timed slower grows
    have pos := Nat.pos_of_ne_zero timed
    exact capacityFor_le_of_enough (Nat.lt_of_lt_of_le pos grows) pos fun slots enough =>
      ⟨enough.1, Nat.le_trans enough.2 (Nat.mul_le_mul_left slots grows)⟩

/-- An exact multiple of the interval, one nanosecond more, and the longest window in
nanoseconds, for which a size is too small. -/
example : capacityFor (.ofSeconds 600) (.ofSeconds 5) = 120 ∧
    capacityFor (.ofNanos (600 * nanosPerSecond + 1)) (.ofSeconds 5) = 121 ∧
    capacityFor (.ofNanos mostNanos) (.ofNanos 1) = mostSlots := by decide +kernel

end NodeTelemetry
