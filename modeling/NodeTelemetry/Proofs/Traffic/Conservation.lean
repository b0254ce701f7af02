/-
# Conservation of snapshots

Whatever the courier and the others on its hub do, and wherever a call stands in
between, every snapshot that came in is in one place: a stream has taken it, it waits,
a call holds it, or it was lost and that was reported. What came in and what left is
read off the acts of a run, apart from the journal; the counters and the log then
agree with it.
-/

import NodeTelemetry.Proofs.Counters
import NodeTelemetry.Proofs.Traffic.Moves

namespace NodeTelemetry

namespace Traffic

namespace Run

variable {traffic : Traffic} {epoch : Int64} {capacity : Nat} {backoff : Backoff}

/-- The cargo holds what came in, no more and no less. -/
theorem content_eq (run : Run (initial epoch capacity backoff) traffic) :
    traffic.cargo.content = (run.collect entering : Multiset Snapshot) := by
  induction run with
  | start => rfl
  | extend run act step ih =>
      rw [cargo_step step, Cargo.content_apply _ _ (ready_step step), ih, step.seen.entering,
        Multiset.coe_add]
      rfl

/-- What there is to say about the snapshots of a run from an empty backlog. -/
structure Balanced (run : Run (initial epoch capacity backoff) traffic) : Prop where
  /-- Each snapshot that came in was taken by a stream, waits, is the one that the call
  has popped or the fresh one that it holds, was lost, or was returned. -/
  conserved :
    (run.collect entering : Multiset Snapshot) =
      run.collect taking +
        (traffic.hub.backlog.toList + traffic.progress.popped?.toList +
          traffic.progress.fresh?.toList) +
        ((run.collect losing).map (·.1) + run.collect returning)
  /-- Each lost snapshot was logged once, in the order of the losses. -/
  noticed :
    traffic.journal.notices.filterMap Log.Notice.drop? =
      (run.collect losing).map fun lost => (lost.1.timestamp, lost.2.name)
  /-- Each lost snapshot was counted once, under its reason and no other. -/
  counted : ∀ reason : String,
    traffic.journal.metrics.snapshotsDropped.count reason =
      ((run.collect losing).map (·.2.name)).count reason
  /-- Each snapshot that a stream has taken was counted once. -/
  sent : traffic.journal.metrics.snapshotsSent = (run.collect taking).length

/-- No snapshot is lost in silence, and none is made up. -/
theorem balanced (run : Run (initial epoch capacity backoff) traffic) : run.Balanced where
  conserved := by
    rw [← run.content_eq, ← run.sent_eq, ← run.dropped_eq, ← run.displaced_eq]
    simp only [Cargo.content, Cargo.lost, ← Multiset.coe_add, add_assoc]
    rfl
  noticed := by
    rw [← run.dropped_eq]
    exact traffic.journal.drops_noticed
  counted := by
    intro reason
    rw [← run.dropped_eq]
    exact traffic.journal.snapshotsDropped_eq_count reason
  sent := by
    rw [← run.sent_eq]
    exact traffic.journal.snapshotsSent_eq_length

end Run

end Traffic

end NodeTelemetry
