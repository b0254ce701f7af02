/-
# Numbering

Two snapshots can be alike, so the order of a run is not to be read off the snapshots.
Beside the cargo of a run its numbered cargo makes the same moves with the snapshots
and the numbers under which they were added. Cargo does not look into what it carries,
and therefore the numbered cargo always shows the snapshots of the run.
-/

import NodeTelemetry.Proofs.Traffic.Moves

namespace NodeTelemetry

universe u v

namespace Move

variable {α : Type u} {β : Type v}

/-- The same move with other items. -/
def map (view : α → β) : Move α → Move β
  | .stay => .stay
  | .handOver fresh => .handOver (fresh.map view)
  | .add item => .add (view item)
  | .offer item => .offer (view item)
  | .pop => .pop
  | .deliver => .deliver
  | .putBack => .putBack
  | .keep => .keep

/-- The same move with items that have a number. -/
def number (number : Nat) (move : Move α) : Move (α × Nat) := move.map (·, number)

variable (number : Nat) (move : Move α)

theorem map_number : (move.number number).map Prod.fst = move := by
  cases move with
  | handOver fresh => cases fresh <;> rfl
  | _ => rfl

theorem entering_number :
    (move.number number).entering = move.entering.map (·, number) := by
  cases move with
  | handOver fresh => cases fresh <;> rfl
  | _ => rfl

end Move

namespace Cargo

variable {α : Type u} {β : Type v} {view : α → β} {cargo : Cargo α} {image : Cargo β}

/-- Cargo that is the view of other cargo, place by place. -/
structure Shows (view : α → β) (cargo : Cargo α) (image : Cargo β) : Prop where
  capacity : image.backlog.capacity = cargo.backlog.capacity
  backlog : image.backlog.toList = cargo.backlog.toList.map view
  popped : image.popped = cargo.popped.map view
  fresh : image.fresh = cargo.fresh.map view
  sent : image.sent = cargo.sent.map view
  dropped : image.dropped = cargo.dropped.map fun lost => (view lost.1, lost.2)
  displaced : image.displaced = cargo.displaced.map view

namespace Shows

theorem length (shows : cargo.Shows view image) :
    image.backlog.length = cargo.backlog.length := by
  rw [← Backlog.length_toList, ← Backlog.length_toList, shows.backlog, List.length_map]

theorem isFull (shows : cargo.Shows view image) :
    image.backlog.isFull = cargo.backlog.isFull := by
  rw [Bool.eq_iff_iff, Backlog.isFull_iff, Backlog.isFull_iff, shows.length, shows.capacity]

theorem lost (shows : cargo.Shows view image) : image.lost = cargo.lost.map view := by
  unfold Cargo.lost
  rw [shows.dropped, shows.displaced, List.map_append, List.map_map, List.map_map]
  rfl

theorem carried (shows : cargo.Shows view image) : image.carried = cargo.carried.map view := by
  unfold Cargo.carried
  rw [shows.popped, shows.fresh]
  cases cargo.popped <;> rfl

theorem release (shows : cargo.Shows view image) : cargo.release.Shows view image.release := by
  have popped := shows.popped
  unfold Cargo.release
  cases hpopped : cargo.popped with
  | none =>
      rw [hpopped, Option.map_none] at popped
      rw [popped]
      exact { shows with popped := rfl, fresh := rfl }
  | some item =>
      rw [hpopped, Option.map_some] at popped
      rw [popped]
      exact { shows with popped := rfl }

/-- What is in sight after an addition; `Cargo.add` and `Cargo.offer` differ only in
where they put the item that has to go. -/
theorem afterAdd (shows : cargo.Shows view image) (item : α) :
    (image.backlog.add (view item)).2.toList = (cargo.backlog.add item).2.toList.map view ∧
      (image.backlog.add (view item)).1 = (cargo.backlog.add item).1.map view := by
  rw [Backlog.toList_add, Backlog.toList_add, Backlog.evicted_add, Backlog.evicted_add,
    shows.isFull, shows.backlog]
  cases cargo.backlog.isFull <;> simp

theorem add (shows : cargo.Shows view image) (item : α) :
    (cargo.add item).Shows view (image.add (view item)) := by
  obtain ⟨waiting, evicted⟩ := shows.afterAdd item
  refine { shows with capacity := ?_, backlog := waiting, dropped := ?_ }
  · simp only [Cargo.add, Backlog.capacity_add, shows.capacity]
  · simp only [Cargo.add, shows.dropped, evicted, Option.toList_map, List.map_append,
      List.map_map, Function.comp_def]

/-- Cargo that makes the same moves goes on to show the same. -/
theorem apply (shows : cargo.Shows view image) (move : Move α) :
    (cargo.apply move).Shows view (image.apply (move.map view)) := by
  cases move with
  | stay => exact shows
  | handOver fresh => exact { shows with fresh := rfl }
  | add item => exact shows.add item
  | offer item =>
      obtain ⟨waiting, evicted⟩ := shows.afterAdd item
      refine { shows with capacity := ?_, backlog := waiting, displaced := ?_ }
      · simp only [Cargo.apply, Move.map, Cargo.offer, Backlog.capacity_add, shows.capacity]
      · simp only [Cargo.apply, Move.map, Cargo.offer, shows.displaced, evicted,
          Option.toList_map, List.map_append]
  | pop =>
      have popped := cargo.backlog.popped
      have imagePopped := image.backlog.popped
      have rest := cargo.backlog.toList_pop
      have imageRest := image.backlog.toList_pop
      have capacity := cargo.backlog.capacity_pop
      have imageCapacity := image.backlog.capacity_pop
      rw [shows.backlog, List.head?_map, ← popped] at imagePopped
      rw [shows.backlog, ← List.map_tail, ← rest] at imageRest
      rw [shows.capacity, ← capacity] at imageCapacity
      simp only [Cargo.apply, Move.map, Cargo.pop]
      generalize image.backlog.pop = imageNext at imagePopped imageRest imageCapacity ⊢
      generalize cargo.backlog.pop = next at imagePopped imageRest imageCapacity ⊢
      obtain ⟨item, backlog⟩ := next
      obtain ⟨imageItem, imageBacklog⟩ := imageNext
      subst imagePopped
      cases item with
      | none => exact shows
      | some item =>
          exact { shows with capacity := imageCapacity, backlog := imageRest, popped := rfl }
  | deliver =>
      refine { shows.release with sent := ?_ }
      simp only [Cargo.apply, Move.map, Cargo.deliver, shows.sent, shows.carried,
        Option.toList_map, List.map_append]
  | putBack =>
      have carried := shows.carried
      have full := shows.isFull
      cases hcarried : cargo.carried with
      | none =>
          rw [hcarried, Option.map_none] at carried
          simp only [Cargo.apply, Move.map]
          rw [putBack_none carried, putBack_none hcarried]
          exact shows
      | some item =>
          rw [hcarried, Option.map_some] at carried
          by_cases hfull : cargo.backlog.isFull
          · rw [hfull] at full
            simp only [Cargo.apply, Move.map]
            rw [putBack_full carried full, putBack_full hcarried hfull]
            refine { shows.release with dropped := ?_ }
            simp only [shows.dropped, List.map_append, List.map_cons, List.map_nil]
          · rw [← full] at hfull
            obtain ⟨imageBacklog, imageEq, imageWaiting, imageCapacity⟩ :=
              putBack_room carried hfull
            rw [full] at hfull
            obtain ⟨backlog, cargoEq, waiting, capacity⟩ := putBack_room hcarried hfull
            simp only [Cargo.apply, Move.map]
            rw [imageEq, cargoEq]
            refine { shows.release with capacity := ?_, backlog := ?_ }
            · rw [imageCapacity, capacity, shows.capacity]
            · rw [imageWaiting, waiting, shows.backlog, List.map_cons]
  | keep =>
      have fresh := shows.fresh
      simp only [Cargo.apply, Move.map]
      cases hfresh : cargo.fresh with
      | none =>
          rw [hfresh, Option.map_none] at fresh
          rw [keep_none fresh, keep_none hfresh]
          exact shows
      | some item =>
          rw [hfresh, Option.map_some] at fresh
          rw [keep_some fresh, keep_some hfresh]
          exact { shows.add item with fresh := rfl }

theorem ready (shows : cargo.Shows view image) {move : Move α}
    (ready : image.Ready (move.map view)) : cargo.Ready move := by
  cases move with
  | handOver fresh => exact Option.map_eq_none_iff.mp (shows.fresh.symm.trans ready)
  | pop => exact Option.map_eq_none_iff.mp (shows.popped.symm.trans ready)
  | _ => trivial

end Shows

end Cargo

namespace Traffic

variable {origin traffic : Traffic} {epoch : Int64} {capacity : Nat} {backoff : Backoff}

/-- No act adds more than one snapshot, so a number for each act is enough. -/
theorem zipIdx_adding (act : Act) (first : Nat) :
    (traffic.adding act).zipIdx first = (traffic.adding act).map (·, first) := by
  cases act <;> rfl

namespace Run

/-- The snapshots that were added, in order. -/
def added (run : Run origin traffic) : List Snapshot := run.collect adding

/-- The cargo with each snapshot under the number that it got when it was added; the
numbers begin at zero. -/
def numbered {traffic : Traffic} : Run origin traffic → Cargo (Snapshot × Nat)
  | .start => { backlog := .withCapacity origin.hub.backlog.capacity }
  | @Run.extend _ before _ run act _ =>
    run.numbered.apply ((before.move act).number run.added.length)

/-- Without its numbers the numbered cargo is the cargo. -/
theorem numbered_shows (run : Run (initial epoch capacity backoff) traffic) :
    run.numbered.Shows Prod.fst traffic.cargo := by
  induction run with
  | start =>
      refine ⟨?_, rfl, rfl, rfl, rfl, rfl, rfl⟩
      change (Backlog.withCapacity capacity : Backlog Snapshot).capacity =
        (Backlog.withCapacity (Backlog.withCapacity capacity : Backlog Snapshot).capacity :
          Backlog (Snapshot × Nat)).capacity
      simp only [Backlog.capacity_withCapacity, max_self, max_assoc]
  | extend run act step ih =>
      rename_i before after
      have moved := ih.apply ((before.move act).number run.added.length)
      rw [Move.map_number, ← cargo_step step] at moved
      exact moved

/-- While nothing is handed over directly, each number is in one place, together with
the snapshot that got it. -/
theorem numbered_content (run : Run (initial epoch capacity backoff) traffic)
    (unprompted : run.collect handing = []) :
    run.numbered.content = (run.added.zipIdx : Multiset (Snapshot × Nat)) := by
  induction run with
  | start => rfl
  | extend run act step ih =>
      rename_i before after
      obtain ⟨earlier, latest⟩ := List.append_eq_nil_iff.mp unprompted
      have ready : run.numbered.Ready ((before.move act).number run.added.length) := by
        refine run.numbered_shows.ready ?_
        rw [Move.map_number]
        exact ready_step step
      have entering : ((before.move act).number run.added.length).entering =
          (before.adding act).zipIdx run.added.length := by
        rw [Move.entering_number, step.seen.entering, zipIdx_adding, Traffic.entering, latest,
          List.nil_append]
      change (run.numbered.apply ((before.move act).number run.added.length)).content =
        ((run.added ++ before.adding act).zipIdx : Multiset (Snapshot × Nat))
      rw [Cargo.content_apply _ _ ready, ih earlier, entering, Multiset.coe_add,
        List.zipIdx_append, Nat.zero_add]

end Run

end Traffic

end NodeTelemetry
