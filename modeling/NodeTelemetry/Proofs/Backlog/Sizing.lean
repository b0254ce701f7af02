/-
# Room for a window

How many slots a window takes, in whole intervals. The capacity of a backlog is that
number, as long as a size can say it, and then the slots cover the window.
-/

import NodeTelemetry.Backlog.Sizing

namespace NodeTelemetry

/-- A quotient rounded up is the least number of parts that are enough. -/
theorem ceilDiv_le_iff {num den parts : Nat} (pos : 0 < den) :
    ceilDiv num den ≤ parts ↔ num ≤ parts * den := by
  unfold ceilDiv
  rw [Nat.div_le_iff_le_mul pos]
  omega

/-- As many parts as the quotient rounded up cover the whole. -/
theorem le_ceilDiv_mul (num : Nat) {den : Nat} (pos : 0 < den) : num ≤ ceilDiv num den * den :=
  (ceilDiv_le_iff pos).mp (Nat.le_refl _)

variable {retention interval : Duration}

/-- If a size can say how many slots the window takes, there are as many. -/
theorem le_capacityFor_mul (pos : 0 < interval.nanos)
    (fits : ceilDiv retention.nanos interval.nanos ≤ mostSlots) :
    retention.nanos ≤ capacityFor retention interval * interval.nanos := by
  have enough : ceilDiv retention.nanos interval.nanos ≤ capacityFor retention interval := by
    unfold capacityFor
    rw [if_neg (Nat.ne_of_gt pos), Nat.min_eq_right fits]
    exact Nat.le_max_right _ _
  exact Nat.le_trans (le_ceilDiv_mul _ pos) (Nat.mul_le_mul_right _ enough)

end NodeTelemetry
