/-
# Listings in another order

A runtime lists its statistics in no fixed order. If no two of them belong to one id, their
order does not show in a join at all: what is looked up by an id is found wherever it
stands. The order of the containers does show, but only in the order of the units of each
sandbox and in the order of the faults.
-/

import Mathlib.Data.List.Forall2
import Mathlib.Data.Option.Defs
import NodeTelemetry.Proofs.Inventory.Accounting

namespace NodeTelemetry

/-- The same record, its units in any order. -/
structure SandboxRecord.SameButOrder (record other : SandboxRecord) : Prop where
  units : record.units.Perm other.units
  rest : { record with units := [] } = { other with units := [] }

namespace Inventory

/-! ## Statistics -/

section Statistics

variable {α : Type} {owner : α → Option String} {stats others : List α}

/-- No two statistics have one owner. Those without an owner may be repeated. -/
def DistinctOwners (owner : α → Option String) (stats : List α) : Prop :=
  (stats.filterMap owner).Nodup

theorem DistinctOwners.perm (distinct : DistinctOwners owner stats) (perm : others.Perm stats) :
    DistinctOwners owner others :=
  (perm.filterMap owner).nodup_iff.mpr distinct

/-- Statistics of their own owner are the ones that belong to it. -/
theorem DistinctOwners.joined?_eq_some_iff (distinct : DistinctOwners owner stats) {id : String}
    {entry : α} :
    joined? owner stats id = some entry ↔ entry ∈ stats ∧ owner entry = some id := by
  constructor
  · intro found
    have own := List.find?_some found
    exact ⟨List.mem_reverse.mp (List.mem_of_find?_eq_some found), eq_of_beq own⟩
  · rintro ⟨member, own⟩
    obtain ⟨before, after, rfl⟩ := List.append_of_mem member
    have later : ∀ other ∈ after, owner other ≠ some id := by
      intro other listed same
      unfold DistinctOwners at distinct
      rw [List.filterMap_append, List.filterMap_cons_some own, List.nodup_append] at distinct
      have alone := (List.nodup_cons.mp distinct.2.1).1
      exact alone (List.mem_filterMap.mpr ⟨other, listed, same⟩)
    unfold joined?
    rw [List.reverse_append, List.reverse_cons, List.append_assoc, List.find?_append]
    have none : after.reverse.find? (fun other => owner other == some id) = none := by
      rw [List.find?_eq_none]
      intro other listed same
      exact later other (List.mem_reverse.mp listed) (eq_of_beq same)
    simp [none, own]

/-- So it does not matter where they stand. -/
theorem joined?_perm (distinct : DistinctOwners owner stats) (perm : others.Perm stats) :
    joined? owner others = joined? owner stats := by
  funext id
  refine Option.ext fun entry => ?_
  rw [distinct.joined?_eq_some_iff, (distinct.perm perm).joined?_eq_some_iff, perm.mem_iff]

theorem getD_perm {listing other : Option (List α)}
    (reordered : Option.Rel List.Perm other listing) :
    (other.getD []).Perm (listing.getD []) := by
  cases reordered with
  | some perm => exact perm
  | none => exact .refl []

end Statistics

theorem usageOf_reordered {stats others : List SandboxStats}
    (distinct : DistinctOwners SandboxStats.owner stats) (perm : others.Perm stats) :
    usageOf others = usageOf stats := by
  funext sandbox
  unfold usageOf
  rw [joined?_perm distinct perm]

section ContainerStats

variable {stats others : Option (List ContainerStats)}

theorem unitsOf_reordered (distinct : DistinctOwners ContainerStats.owner (stats.getD []))
    (reordered : Option.Rel List.Perm others stats) : unitsOf others = unitsOf stats := by
  funext containers
  cases reordered with
  | none => rfl
  | some perm =>
      rw [Option.getD_some] at distinct
      dsimp only [unitsOf]
      rw [joined?_perm distinct perm]

theorem missesOf_reordered (distinct : DistinctOwners ContainerStats.owner (stats.getD []))
    (reordered : Option.Rel List.Perm others stats) : missesOf others = missesOf stats := by
  funext sandbox containers
  cases reordered with
  | none => rfl
  | some perm =>
      rw [Option.getD_some] at distinct
      dsimp only [missesOf]
      rw [joined?_perm distinct perm]

theorem isSome_reordered (reordered : Option.Rel List.Perm others stats) :
    others.isSome = stats.isSome := by
  cases reordered <;> rfl

end ContainerStats

/-! ## Containers -/

section Containers

variable {containers others : List Container}

/-- The same containers of a sandbox, in any order. -/
inductive SameShare : Sandbox × List Container → Sandbox × List Container → Prop where
  | mk (sandbox : Sandbox) {own others : List Container} (perm : own.Perm others) :
      SameShare (sandbox, own) (sandbox, others)

theorem shares_perm (perm : others.Perm containers) (earlier sandboxes : List Sandbox) :
    List.Forall₂ SameShare (shares others earlier sandboxes)
      (shares containers earlier sandboxes) := by
  induction sandboxes generalizing earlier with
  | nil => exact .nil
  | cons sandbox rest ih =>
      rw [shares_cons, shares_cons]
      have own : (falling others earlier sandbox.id).Perm
          (falling containers earlier sandbox.id) := by
        rw [falling_eq, falling_eq]
        exact perm.filter _
      exact .cons (.mk sandbox own) (ih (earlier ++ [sandbox]))

theorem unitsOf_perm (stats : Option (List ContainerStats)) (perm : others.Perm containers) :
    (unitsOf stats others).Perm (unitsOf stats containers) := by
  cases stats with
  | none => exact .refl []
  | some stats => exact perm.filterMap _

theorem missesOf_perm (stats : Option (List ContainerStats)) (sandbox : Sandbox)
    (perm : others.Perm containers) :
    (missesOf stats sandbox others).Perm (missesOf stats sandbox containers) := by
  cases stats with
  | none => exact .refl []
  | some stats => exact (perm.filter _).map _

theorem flatMap_missesOf_perm (stats : Option (List ContainerStats))
    {shared others : List (Sandbox × List Container)}
    (same : List.Forall₂ SameShare others shared) :
    (others.flatMap fun (sandbox, own) => missesOf stats sandbox own).Perm
      (shared.flatMap fun (sandbox, own) => missesOf stats sandbox own) := by
  induction same with
  | nil => exact .refl []
  | cons share _ ih =>
      obtain ⟨sandbox, own⟩ := share
      rw [List.flatMap_cons, List.flatMap_cons]
      exact (missesOf_perm stats sandbox own).append ih

end Containers

/-! ## Joins -/

/-- What the order of the listings has to do with their join. -/
structure OrderFree (listings : Listings) (reportOrphans : Bool) : Prop where
  /-- The order of statistics with distinct owners has nothing to do with it. -/
  stats : ∀ sandboxStats containerStats,
    DistinctOwners SandboxStats.owner (listings.sandboxStats.getD []) →
    DistinctOwners ContainerStats.owner (listings.containerStats.getD []) →
    Option.Rel List.Perm sandboxStats listings.sandboxStats →
    Option.Rel List.Perm containerStats listings.containerStats →
      join { listings with sandboxStats, containerStats } reportOrphans =
        join listings reportOrphans
  /-- The order of containers shows in the order of the units and of the faults. -/
  containers : ∀ containers, Option.Rel List.Perm containers listings.containers →
    List.Forall₂ SandboxRecord.SameButOrder
        (join { listings with containers } reportOrphans).1 (join listings reportOrphans).1 ∧
      (join { listings with containers } reportOrphans).2.Perm (join listings reportOrphans).2

theorem join_order_free (listings : Listings) (reportOrphans : Bool) :
    OrderFree listings reportOrphans := by
  constructor
  · intro sandboxStats containerStats distinct alsoDistinct reordered alsoReordered
    rw [join_eq_nestedJoin, join_eq_nestedJoin]
    unfold nestedJoin
    simp only [usageOf_reordered distinct (getD_perm reordered),
      unitsOf_reordered alsoDistinct alsoReordered, missesOf_reordered alsoDistinct alsoReordered,
      isSome_reordered alsoReordered]
  · intro containers reordered
    have perm := getD_perm reordered
    have shared := shares_perm perm [] (listings.sandboxes.getD [])
    rw [join_eq_nestedJoin, join_eq_nestedJoin]
    unfold nestedJoin
    constructor
    · rw [List.forall₂_map_left_iff, List.forall₂_map_right_iff]
      refine shared.imp fun share other same => ?_
      obtain ⟨sandbox, own⟩ := same
      exact ⟨unitsOf_perm listings.containerStats own, rfl⟩
    · refine (flatMap_missesOf_perm _ shared).append ?_
      split
      · exact (perm.filter _).map _
      · exact .refl []

end Inventory

end NodeTelemetry
