/-
# The timetable of a collector

As long as collecting is not called off, the collections of a collector are known
beforehand: the sources say how long each of them takes, and the ticker when the next one
may begin. The timetable is worked out without a collector; a collector that is on time
stands in it, between two rounds or in one, whatever goes on beside it.
-/

import NodeTelemetry.Proofs.Delivery.Onward
import Mathlib.Order.Monotone.Basic

namespace NodeTelemetry.Collection

/-- What the collections of a collector depend on. -/
structure Timetable where
  plan : Plan
  /-- Nanoseconds from round to round. -/
  interval : Nat
  /-- When the collector was started. -/
  start : Nat
  /-- The second since the epoch at which the clock stood at zero. -/
  epoch : Int64

/-- The timetable of a collector that is started on a hub. -/
def Plan.timetable (plan : Plan) (interval : Nat) (hub : Hub) : Timetable :=
  ⟨plan, interval, hub.now, hub.epoch⟩

/-- A collector between two rounds: its ticker, and the moment since which it is free. -/
structure Gap where
  ticker : Ticker
  free : Nat

/-- The next round begins when it is due and the one before has ended. -/
def Gap.begins (gap : Gap) : Nat := max gap.free gap.ticker.due

namespace Timetable

variable (table : Timetable)

/-- Nanoseconds that a collection takes. -/
def takes (index : Nat) : Nat :=
  elapsed table.plan.settings table.plan.limit (table.plan.sources index)

/-- The gap before each collection. -/
def gap : Nat → Gap
  | 0 => ⟨.start table.interval table.start, table.start⟩
  | index + 1 =>
    let before := gap index
    ⟨before.ticker.take before.begins, before.begins + table.takes index⟩

/-- The collection with a number: when it begins, when it ends, and what it finds. -/
def collection (index : Nat) : Running where
  index
  since := (table.gap index).begins
  due := (table.gap index).begins + table.takes index
  findings := collect table.plan.settings table.plan.limit
    (table.epoch + Int64.ofNat ((table.gap index).begins / nanosPerSecond))
    (table.plan.sources index)

theorem since_le_due (index : Nat) :
    (table.collection index).since ≤ (table.collection index).due :=
  Nat.le_add_right _ _

/-- A collection does not begin before the one before it has ended. -/
theorem due_le_since (index : Nat) :
    (table.collection index).due ≤ (table.collection (index + 1)).since :=
  Nat.le_max_left _ _

theorem monotone_due : Monotone fun index => (table.collection index).due :=
  monotone_nat_of_le_succ fun index =>
    Nat.le_trans (table.due_le_since index) (table.since_le_due (index + 1))

/-- Where a collector stands that has completed some collections. -/
inductive Stands (count now : Nat) : Collector → Prop where
  | idle (free : (table.gap count).free ≤ now) (soon : now ≤ (table.gap count).begins) :
      Stands count now ⟨(table.gap count).ticker, count, .idle⟩
  | running (begun : (table.collection count).since ≤ now)
      (soon : now ≤ (table.collection count).due) :
      Stands count now
        ⟨(table.gap (count + 1)).ticker, count + 1, .running (table.collection count)⟩

theorem stands_start :
    table.Stands 0 table.start ⟨.start table.interval table.start, 0, .idle⟩ :=
  .idle (Nat.le_refl _) (Nat.le_max_left _ _)

variable {table} {count now : Nat} {hub : Hub} {collector : Collector}

theorem Stands.notStopped (stands : table.Stands count now collector) :
    collector.phase ≠ .stopped := by
  cases stands <;> nofun

/-- The next collection to be completed has not ended yet. -/
theorem Stands.le_due (stands : table.Stands count now collector) :
    now ≤ (table.collection count).due := by
  cases stands with
  | idle free soon => exact Nat.le_trans soon (table.since_le_due count)
  | running begun soon => exact soon

/-- A collector that stands in its timetable goes on at a moment that has not passed. -/
theorem Stands.le_of_due (stands : table.Stands count hub.now collector) :
    ∀ moment ∈ collector.dueAt? false hub, hub.now ≤ moment := by
  rintro moment goesOn
  cases stands with
  | idle free soon =>
      exact Nat.le_trans (Nat.le_max_left _ _) (Nat.le_of_eq (Option.some.inj goesOn))
  | running begun soon => exact Nat.le_trans soon (Nat.le_of_eq (Option.some.inj goesOn))

/-- Time may pass until then. -/
theorem Stands.pass (stands : table.Stands count hub.now collector) (later : hub.now ≤ now)
    (timely : ∀ moment ∈ collector.dueAt? false hub, now ≤ moment) :
    table.Stands count now collector := by
  cases stands with
  | idle free soon =>
      have due : now ≤ max hub.now (table.gap count).ticker.due := timely _ rfl
      have begins : (table.gap count).begins =
          max (table.gap count).free (table.gap count).ticker.due := rfl
      exact .idle (by omega) (by omega)
  | running begun soon => exact .running (by omega) (timely _ rfl)

end Timetable

/-- The collection that was running and has been completed. -/
def completed? : Phase → Phase → Option Running
  | .running collection, .idle => some collection
  | _, _ => none

/-- Only what was running is completed. -/
theorem running_of_completed? {before after : Phase} {collection : Running}
    (completes : completed? before after = some collection) :
    before = .running collection := by
  cases before with
  | running running =>
      cases after with
      | idle => exact congrArg _ (Option.some.inj completes)
      | _ => cases completes
  | _ => cases completes

/-- A collector that stops completes nothing. -/
theorem completed?_stopped (before : Phase) : completed? before .stopped = none := by
  cases before <;> rfl

namespace Timetable

variable {table : Timetable} {count : Nat} {hub : Hub} {collector : Collector}

/-- A collector that is due begins the next collection when the timetable says so. -/
theorem start_eq (epoch : hub.epoch = table.epoch) (now : hub.now = (table.gap count).begins) :
    Collector.start table.plan hub ⟨(table.gap count).ticker, count, .idle⟩ =
      (hub.note (.collecting count),
        ⟨(table.gap (count + 1)).ticker, count + 1, .running (table.collection count)⟩) := by
  have second : hub.second =
      table.epoch + Int64.ofNat ((table.gap count).begins / nanosPerSecond) := by
    unfold Hub.second
    rw [epoch, now]
  unfold Collector.start
  simp only
  rw [second, now]
  rfl

/-- A collector that does what is due begins the next collection, or completes the one that
is running when the timetable says so. -/
theorem Stands.step (stands : table.Stands count hub.now collector)
    (epoch : hub.epoch = table.epoch) {next : Hub × Collector}
    (step : collector.step table.plan false hub = next) :
    completed? collector.phase next.2.phase = none ∧
        table.Stands count next.1.now next.2 ∨
      completed? collector.phase next.2.phase = some (table.collection count) ∧
        next.1.now = (table.collection count).due ∧
        table.Stands (count + 1) next.1.now next.2 := by
  subst step
  cases stands with
  | idle free soon =>
      have begins : (hub.waitUntil (table.gap count).ticker.due).now =
          (table.gap count).begins := by
        change max hub.now (table.gap count).ticker.due = max (table.gap count).free _
        change hub.now ≤ max (table.gap count).free _ at soon
        omega
      have begun : Collector.step table.plan false hub ⟨(table.gap count).ticker, count, .idle⟩ =
          _ := start_eq epoch begins
      left
      rw [begun]
      refine ⟨rfl, .running (Nat.le_of_eq begins.symm) ?_⟩
      exact Nat.le_trans (Nat.le_of_eq begins) (table.since_le_due count)
  | running begun soon =>
      have ends : (Collector.step table.plan false hub ⟨(table.gap (count + 1)).ticker, count + 1,
          .running (table.collection count)⟩).1.now = (table.collection count).due :=
        (Hub.now_record _ _ _).trans (Nat.max_eq_right soon)
      refine .inr ⟨rfl, ends, .idle (Nat.le_of_eq ends.symm) ?_⟩
      exact Nat.le_trans (Nat.le_of_eq ends) (table.due_le_since count)

end Timetable

end NodeTelemetry.Collection
