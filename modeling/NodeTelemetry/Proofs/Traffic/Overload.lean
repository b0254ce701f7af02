/-
# Overload

A snapshot is lost only when there is one more than the backlog can hold. The popped
snapshot counts as well: it has left the backlog, and its place may be taken before it
comes back. With that, each way of losing a snapshot starts from a full backlog and a
snapshot outside of it.
-/

import NodeTelemetry.Proofs.Traffic.Moves

namespace NodeTelemetry

namespace Traffic

open Delivery

variable {traffic next : Traffic} {act : Act}

/-- The snapshot that an act puts into the backlog, unless it was popped before. -/
def joining (traffic : Traffic) (act : Act) : List Snapshot :=
  match act, traffic.progress with
  | .record findings _, _ => [findings.snapshot]
  | .offer snapshot, _ => [snapshot]
  | .work _, .working (.keep snapshot) => [snapshot]
  | .work _, .working (.putBack snapshot .fresh) => [snapshot]
  | _, _ => []

/-- How many undelivered snapshots there are at an act: those that wait, the popped one,
and the one that is put into the backlog. -/
def load (traffic : Traffic) (act : Act) : Nat :=
  traffic.hub.backlog.length + traffic.progress.popped?.toList.length +
    (traffic.joining act).length

/-- Adding a snapshot pushes another one out of a full backlog only. -/
theorem isFull_of_evicted {backlog : Backlog Snapshot} {snapshot : Snapshot}
    (evicted : (backlog.add snapshot).1 ≠ none) : backlog.isFull := by
  by_contra room
  rw [Backlog.evicted_add, if_neg room] at evicted
  exact evicted rfl

/-- A snapshot that comes on top of a full backlog is one too many, whether it was popped
or not. -/
theorem overload_of_isFull (full : traffic.hub.backlog.isFull)
    (outside : 0 < traffic.progress.popped?.toList.length + (traffic.joining act).length) :
    traffic.hub.backlog.capacity + 1 ≤ traffic.load act := by
  have filled := Backlog.isFull_iff _ |>.mp full
  unfold load
  omega

theorem overload_of_losing (step : Step traffic act next) (loses : traffic.losing act ≠ []) :
    traffic.hub.backlog.capacity + 1 ≤ traffic.load act := by
  cases step with
  | record findings elapsed =>
      have evicted : (traffic.hub.backlog.add findings.snapshot).1 ≠ none := by
        intro kept
        apply loses
        simp only [losing, kept, Option.toList_none, List.map_nil]
      exact overload_of_isFull (isFull_of_evicted evicted) (Nat.succ_pos _)
  | @work courier task cancelled =>
      cases task with
      | drain fresh => exact absurd rfl loses
      | keep snapshot =>
          have evicted : (courier.hub.backlog.add snapshot).1 ≠ none := by
            intro kept
            apply loses
            simp only [losing, hub, kept, Option.toList_none, List.map_nil]
          exact overload_of_isFull (isFull_of_evicted evicted) (Nat.succ_pos _)
      | putBack snapshot turn =>
          have full : courier.hub.backlog.isFull := by
            by_contra room
            obtain ⟨backlog, accepted, -⟩ := Backlog.requeue?_of_room room snapshot
            apply loses
            simp only [losing, hub, accepted]
          refine overload_of_isFull full ?_
          cases turn <;> exact Nat.succ_pos _
  | _ => exact absurd rfl loses

theorem overload_of_returning (step : Step traffic act next)
    (returns : traffic.returning act ≠ []) :
    traffic.hub.backlog.capacity + 1 ≤ traffic.load act := by
  cases step with
  | offer snapshot =>
      rw [← returning_offer] at returns
      have evicted : (traffic.hub.backlog.add snapshot).1 ≠ none := by
        intro kept
        exact returns (congrArg Option.toList kept)
      exact overload_of_isFull (isFull_of_evicted evicted) (Nat.succ_pos _)
  | _ => exact absurd rfl returns

theorem capacity_step (step : Step traffic act next) :
    next.hub.backlog.capacity = traffic.hub.backlog.capacity := by
  have moved := congrArg (·.backlog.capacity) (cargo_step step)
  exact moved.trans (Cargo.recorded _ _).capacity

namespace Run

variable {epoch : Int64} {capacity : Nat} {backoff : Backoff}

theorem capacity_eq (run : Run (initial epoch capacity backoff) traffic) :
    traffic.hub.backlog.capacity = max capacity 1 := by
  induction run with
  | start => exact Backlog.capacity_withCapacity capacity
  | extend run act step ih => exact (capacity_step step).trans ih

/-- The loads at all acts of a run. -/
def loads {origin : Traffic} (run : Run origin traffic) : List Nat :=
  run.collect fun traffic act => [traffic.load act]

/-- Whatever is lost after a run is lost while there is more than fits. -/
theorem overload_of_gone (run : Run (initial epoch capacity backoff) traffic)
    (step : Step traffic act next)
    (gone : traffic.losing act ≠ [] ∨ traffic.returning act ≠ []) :
    max capacity 1 + 1 ≤ traffic.load act := by
  rw [← run.capacity_eq]
  rcases gone with loses | returns
  · exact overload_of_losing step loses
  · exact overload_of_returning step returns

/-- At every act of a run that loses a snapshot there is more than fits, so that a run in
which there never is loses none, whatever sends fail. -/
theorem loses_only_overload (run : Run (initial epoch capacity backoff) traffic) :
    (∀ act next, Step traffic act next →
      traffic.losing act ≠ [] ∨ traffic.returning act ≠ [] →
      max capacity 1 + 1 ≤ traffic.load act) ∧
    ((∀ load ∈ run.loads, load ≤ max capacity 1) →
      run.collect losing = [] ∧ run.collect returning = []) := by
  refine ⟨fun act next => run.overload_of_gone, ?_⟩
  intro bounded
  induction run with
  | start => exact ⟨rfl, rfl⟩
  | extend run act step ih =>
      rename_i before after
      obtain ⟨noneLost, noneReturned⟩ :=
        ih fun load hload => bounded load (List.mem_append_left _ hload)
      have fits : before.load act ≤ max capacity 1 :=
        bounded _ (List.mem_append_right _ (List.mem_singleton_self _))
      have notOver : ¬max capacity 1 + 1 ≤ before.load act := by omega
      have keeps : before.losing act = [] := by
        by_contra loses
        exact notOver (run.overload_of_gone step (.inl loses))
      have takesBack : before.returning act = [] := by
        by_contra returns
        exact notOver (run.overload_of_gone step (.inr returns))
      constructor
      · rw [collect, noneLost, keeps, List.append_nil]
      · rw [collect, noneReturned, takesBack, List.append_nil]

/-- A run that has lost a snapshot has seen three at once, one more than fit. -/
theorem crowded_overloaded :
    crowded.2.collect losing = [(.bare 1, .requeueOverflow)] ∧
      ∃ load ∈ crowded.2.loads, 2 < load := by
  refine ⟨rfl, ?_⟩
  by_contra! bounded
  have none := (loses_only_overload crowded.2).2 bounded
  exact absurd none.1 (List.cons_ne_nil _ _)

end Run

end Traffic

end NodeTelemetry
