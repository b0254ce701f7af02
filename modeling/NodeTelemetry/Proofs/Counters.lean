/-
# Counters

A counter is what its measurements come to: as many as were made. For counters with
labels this rests on the order of the labels, since a label that is out of place would
be counted twice. What the journal says about snapshots that left is therefore what
the counters and the log say about them.
-/

import Mathlib.Data.List.Induction
import Mathlib.Data.String.Basic
import NodeTelemetry.Journal

namespace NodeTelemetry

/-- The timestamp and the reason that a notice gives for a lost snapshot. -/
def Log.Notice.drop? : Log.Notice → Option (Int64 × String)
  | .snapshotDropped timestamp reason => some (timestamp, reason)
  | _ => none

namespace Labelled

/-- The labels are in order, and each stands there once. -/
def Sorted (counters : Labelled) : Prop := counters.Pairwise fun first second => first.1 < second.1

variable {counters : Labelled}

theorem count_cons (label other : String) (count : Nat) (rest : Labelled) :
    Labelled.count label ((other, count) :: rest) =
      if other = label then count else Labelled.count label rest := by
  unfold Labelled.count
  by_cases same : other = label
  · rw [List.find?_cons_of_pos (by simpa using same), if_pos same]
    rfl
  · rw [List.find?_cons_of_neg (by simpa using same), if_neg same]

/-- A label below all others was not counted yet. -/
theorem count_eq_zero {label : String} (below : ∀ entry ∈ counters, label < entry.1) :
    counters.count label = 0 := by
  induction counters with
  | nil => rfl
  | cons entry rest ih =>
      obtain ⟨other, count⟩ := entry
      have apart : other ≠ label := (below _ List.mem_cons_self).ne'
      rw [count_cons, if_neg apart]
      exact ih fun entry hentry => below entry (List.mem_cons_of_mem _ hentry)

/-- Counting adds no other label. -/
theorem mem_bump {label : String} {entry : String × Nat}
    (hentry : entry ∈ counters.bump label) :
    entry.1 = label ∨ ∃ old ∈ counters, old.1 = entry.1 := by
  induction counters with
  | nil =>
      left
      exact congrArg Prod.fst (List.mem_singleton.mp hentry)
  | cons head rest ih =>
      obtain ⟨other, count⟩ := head
      unfold bump at hentry
      split at hentry
      · rcases List.mem_cons.mp hentry with rfl | older
        · exact .inr ⟨_, List.mem_cons_self, rfl⟩
        · exact .inr ⟨entry, List.mem_cons_of_mem _ older, rfl⟩
      · split at hentry
        · rcases List.mem_cons.mp hentry with rfl | older
          · exact .inl rfl
          · exact .inr ⟨entry, older, rfl⟩
        · rcases List.mem_cons.mp hentry with rfl | later
          · exact .inr ⟨_, List.mem_cons_self, rfl⟩
          · rcases ih later with hlabel | ⟨old, hold, hsame⟩
            · exact .inl hlabel
            · exact .inr ⟨old, List.mem_cons_of_mem _ hold, hsame⟩

theorem Sorted.bump (sorted : counters.Sorted) (label : String) :
    (counters.bump label).Sorted := by
  induction counters with
  | nil => exact List.pairwise_singleton _ _
  | cons entry rest ih =>
      obtain ⟨other, count⟩ := entry
      obtain ⟨below, ordered⟩ := List.pairwise_cons.mp sorted
      unfold Labelled.bump
      split
      · exact List.pairwise_cons.mpr ⟨below, ordered⟩
      · rename_i apart
        split
        · rename_i before
          refine List.pairwise_cons.mpr ⟨?_, sorted⟩
          intro entry hentry
          rcases List.mem_cons.mp hentry with rfl | later
          · exact before
          · exact before.trans (below entry later)
        · rename_i notBefore
          have after : other < label := lt_of_le_of_ne (not_lt.mp notBefore) apart
          refine List.pairwise_cons.mpr ⟨?_, ih ordered⟩
          intro entry hentry
          rcases mem_bump hentry with hlabel | ⟨old, hold, hsame⟩
          · rw [hlabel]
            exact after
          · rw [← hsame]
            exact below old hold

/-- Counting under a label changes the count of that label, by one. -/
theorem Sorted.count_bump (sorted : counters.Sorted) (label other : String) :
    (counters.bump label).count other =
      counters.count other + if label = other then 1 else 0 := by
  induction counters with
  | nil =>
      rw [Labelled.bump, count_cons]
      exact (Nat.zero_add _).symm
  | cons entry rest ih =>
      obtain ⟨first, count⟩ := entry
      obtain ⟨below, ordered⟩ := List.pairwise_cons.mp sorted
      unfold Labelled.bump
      split
      · rename_i same
        subst same
        rw [count_cons, count_cons]
        by_cases wanted : first = other <;> simp [wanted]
      · rename_i apart
        split
        · rename_i before
          rw [count_cons other label]
          by_cases wanted : label = other
          · subst wanted
            have absent : Labelled.count label ((first, count) :: rest) = 0 := by
              apply count_eq_zero
              intro entry hentry
              rcases List.mem_cons.mp hentry with rfl | later
              · exact before
              · exact before.trans (below entry later)
            rw [absent, if_pos rfl]
          · rw [if_neg wanted, if_neg wanted, Nat.add_zero]
        · rw [count_cons, count_cons, ih ordered]
          by_cases wanted : first = other
          · subst wanted
            rw [if_pos rfl, if_pos rfl, if_neg (Ne.symm apart), Nat.add_zero]
          · rw [if_neg wanted, if_neg wanted]

end Labelled

namespace Metrics

theorem ofMeasurements_concat (measurements : List Measurement) (latest : Measurement) :
    ofMeasurements (measurements ++ [latest]) = (ofMeasurements measurements).record latest := by
  simp [ofMeasurements]

theorem snapshotsSent_eq (measurements : List Measurement) :
    (ofMeasurements measurements).snapshotsSent = measurements.count .snapshotSent := by
  induction measurements using List.reverseRecOn with
  | nil => rfl
  | append_singleton measurements latest ih =>
      rw [ofMeasurements_concat, List.count_append, ← ih]
      cases latest <;> rfl

theorem snapshotsDropped_sorted (measurements : List Measurement) :
    (ofMeasurements measurements).snapshotsDropped.Sorted := by
  induction measurements using List.reverseRecOn with
  | nil => exact .nil
  | append_singleton measurements latest ih =>
      rw [ofMeasurements_concat]
      cases latest with
      | snapshotDropped reason => exact ih.bump reason
      | _ => exact ih

theorem snapshotsDropped_eq (measurements : List Measurement) (reason : String) :
    (ofMeasurements measurements).snapshotsDropped.count reason =
      measurements.count (.snapshotDropped reason) := by
  induction measurements using List.reverseRecOn with
  | nil => rfl
  | append_singleton measurements latest ih =>
      rw [ofMeasurements_concat, List.count_append, ← ih]
      cases latest with
      | snapshotDropped other =>
          have sorted := snapshotsDropped_sorted measurements
          simp only [record, sorted.count_bump, List.count_singleton, beq_iff_eq,
            Measurement.snapshotDropped.injEq]
      | _ => rfl

end Metrics

namespace Journal

variable (journal : Journal)

/-- The sends counter counts the snapshots that streams have taken. -/
theorem snapshotsSent_eq_length : journal.metrics.snapshotsSent = journal.sent.length := by
  unfold metrics sent
  rw [Metrics.snapshotsSent_eq]
  induction journal.events with
  | nil => rfl
  | cons event events ih =>
      rw [List.flatMap_cons, List.count_append, ih]
      cases event <;> simp [Event.measurements, Nat.add_comm]

/-- The drops counter of a reason counts the snapshots that were lost for it. -/
theorem snapshotsDropped_eq_count (reason : String) :
    journal.metrics.snapshotsDropped.count reason =
      (journal.dropped.map (·.2.name)).count reason := by
  unfold metrics dropped
  rw [Metrics.snapshotsDropped_eq]
  induction journal.events with
  | nil => rfl
  | cons event events ih =>
      rw [List.flatMap_cons, List.count_append, ih]
      cases event with
      | dropped snapshot lostFor =>
          simp [Event.measurements, List.count_cons, Nat.add_comm]
      | _ => simp [Event.measurements]

/-- Each lost snapshot was logged once, with its timestamp, in the order of the losses. -/
theorem drops_noticed :
    journal.notices.filterMap Log.Notice.drop? =
      journal.dropped.map fun lost => (lost.1.timestamp, lost.2.name) := by
  unfold notices dropped
  induction journal.events with
  | nil => rfl
  | cons event events ih =>
      rw [List.flatMap_cons, List.filterMap_append, ih]
      cases event with
      | moved origin target =>
          by_cases same : origin = target <;> simp [Event.notices, Log.Notice.drop?, same]
      | _ => rfl

end Journal

end NodeTelemetry
