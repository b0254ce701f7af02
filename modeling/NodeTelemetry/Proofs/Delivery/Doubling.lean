/-
# Delays in use

Whoever waits between attempts asks for one delay after the other and now and then starts
over. Which delay comes next depends on nothing but how many were given out since the
latest start: the initial one is doubled that often, in exact arithmetic, and cut to the
longest one. The bound of durations never shows, because a delay that would exceed it
exceeds the longest one as well.
-/

import Mathlib.Data.List.Induction
import NodeTelemetry.Proofs.Delivery.Delays

namespace NodeTelemetry.Backoff

/-- What delays are used for. -/
inductive Use where
  /-- A delay is asked for and given out. -/
  | next
  /-- The delays start over. -/
  | reset
  deriving DecidableEq

/-- The delays after they were used once more. -/
def use (backoff : Backoff) : Use → Backoff
  | .next => backoff.advance
  | .reset => backoff.reset

/-- The delays after they were used from their start on. -/
def used (initial longest : Duration) (uses : List Use) : Backoff :=
  uses.foldl use (start initial longest)

/-- How many delays were given out since the latest reset, or since the start. -/
def sinceReset (uses : List Use) : Nat := (uses.reverse.takeWhile (· == .next)).length

theorem sinceReset_next (uses : List Use) : sinceReset (uses ++ [.next]) = sinceReset uses + 1 := by
  simp [sinceReset]

theorem sinceReset_reset (uses : List Use) : sinceReset (uses ++ [.reset]) = 0 := by
  simp [sinceReset]

variable (initial longest : Duration)

/-- Only the delays since the latest reset count. -/
theorem used_eq_after (uses : List Use) :
    used initial longest uses = after initial longest (sinceReset uses) := by
  induction uses using List.reverseRecOn with
  | nil => rfl
  | append_singleton uses latest ih =>
      have onward : used initial longest (uses ++ [latest]) =
          (used initial longest uses).use latest := by simp [used]
      rw [onward, ih]
      cases latest with
      | next =>
          rw [sinceReset_next]
          rfl
      | reset =>
          rw [sinceReset_reset]
          exact reset_after initial longest (sinceReset uses)

/-- Cutting the initial delay before doubling it makes no difference. -/
theorem delayNanos_eq (refusals : Nat) :
    delayNanos initial longest refusals =
      min (initial.nanos * Nat.pow 2 refusals) longest.nanos := by
  unfold delayNanos
  have positive : 0 < Nat.pow 2 refusals := Nat.two_pow_pos refusals
  rcases Nat.le_total initial.nanos longest.nanos with short | long
  · rw [Nat.min_eq_left short]
  · -- Both products are at least as long as the longest delay, so the cut ends them alike.
    have cut := Nat.le_mul_of_pos_right longest.nanos positive
    have uncut := Nat.mul_le_mul_right (Nat.pow 2 refusals) long
    rw [Nat.min_eq_right long, Nat.min_eq_right cut,
      Nat.min_eq_right (Nat.le_trans cut uncut)]

/-- The delay that is given out next, in closed form. -/
theorem nanos_nextDelay_used (uses : List Use) :
    (used initial longest uses).nextDelay.nanos =
      min (initial.nanos * Nat.pow 2 (sinceReset uses)) longest.nanos := by
  rw [used_eq_after, nanos_nextDelay_after, delayNanos_eq]

/-- Asking for more delays only counts them. -/
theorem sinceReset_append_replicate (uses : List Use) (more : Nat) :
    sinceReset (uses ++ List.replicate more .next) = sinceReset uses + more := by
  induction more with
  | zero => simp
  | succ more ih =>
      rw [List.replicate_succ', ← List.append_assoc, sinceReset_next, ih]
      rfl

/-- The delay that is given out after some uses, and those that are given out after it
without a reset. -/
structure Doubles (initial longest : Duration) (uses : List Use) : Prop where
  /-- It is the initial one, doubled for each delay since the latest reset and cut to the
  longest one. -/
  closedForm : (used initial longest uses).nextDelay.nanos =
    min (initial.nanos * Nat.pow 2 (sinceReset uses)) longest.nanos
  bounded : (used initial longest uses).nextDelay.nanos ≤ longest.nanos
  /-- No later one is shorter. -/
  grows : ∀ more, (used initial longest uses).nextDelay.nanos ≤
    (used initial longest (uses ++ List.replicate more .next)).nextDelay.nanos
  /-- If it is the longest one, so are all later ones. -/
  stays : (used initial longest uses).nextDelay = longest → ∀ more,
    (used initial longest (uses ++ List.replicate more .next)).nextDelay = longest

/-- However delays are used, they double up to the longest one and stay there. -/
theorem doubles_up_to_longest (uses : List Use) : Doubles initial longest uses := by
  have bounded : ∀ uses, (used initial longest uses).nextDelay.nanos ≤ longest.nanos := by
    intro uses
    rw [nanos_nextDelay_used]
    exact Nat.min_le_right _ _
  have grows : ∀ more, (used initial longest uses).nextDelay.nanos ≤
      (used initial longest (uses ++ List.replicate more .next)).nextDelay.nanos := by
    intro more
    rw [used_eq_after, used_eq_after, nanos_nextDelay_after, nanos_nextDelay_after,
      sinceReset_append_replicate]
    exact delayNanos_mono initial longest (Nat.le_add_right _ _)
  refine ⟨nanos_nextDelay_used initial longest uses, bounded uses, grows, ?_⟩
  intro atLongest more
  have notShorter := grows more
  rw [atLongest] at notShorter
  exact Duration.ext (Nat.le_antisymm (bounded _) notShorter)

/-- The delays unless configured, in seconds: the sixth one is the longest, and after a reset
they start over. -/
example :
    let delay (uses : List Use) := (used (.ofSeconds 1) (.ofSeconds 30) uses).nextDelay
    delay (.replicate 4 .next) = .ofSeconds 16 ∧ delay (.replicate 5 .next) = .ofSeconds 30 ∧
      delay (.replicate 5 .next ++ [.reset, .next]) = .ofSeconds 2 := by decide

end NodeTelemetry.Backoff
