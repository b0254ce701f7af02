/-
# Joining without a listing

A listing that failed takes from the join what depends on it and nothing else. Without
sandboxes there are no records; without sandbox statistics the records lack their usage;
without containers or their statistics they lack their units. In all cases but that of
the sandbox statistics no container is reported as missing.
-/

import NodeTelemetry.Inventory.Join

namespace NodeTelemetry

namespace SandboxRecord

/-- The record of a sandbox as far as its parts are known. -/
def keeping (usageKnown unitsKnown : Bool) (record : SandboxRecord) : SandboxRecord :=
  { record with
    usage := if usageKnown then record.usage else none
    units := if unitsKnown then record.units else [] }

@[simp]
theorem keeping_all (record : SandboxRecord) : record.keeping true true = record := rfl

end SandboxRecord

namespace Inventory

variable {usage : Std.HashMap String SandboxStats} {index : Std.HashMap String ContainerStats}
  {sandboxes : List Sandbox} {groups : Groups}

/-- Statistics of sandboxes show in the usage of their records only. -/
theorem joinSandboxes_noUsage (stats : Option (Std.HashMap String ContainerStats)) :
    joinSandboxes ∅ stats sandboxes groups =
      ((joinSandboxes usage stats sandboxes groups).1.map (·.keeping false true),
        (joinSandboxes usage stats sandboxes groups).2) := by
  induction sandboxes generalizing groups with
  | nil => rfl
  | cons sandbox rest ih =>
      unfold joinSandboxes
      cases stats with
      | none =>
          simp only
          rw [ih]
          simp [SandboxRecord.keeping, Sandbox.record]
      | some index =>
          simp only
          rw [ih]
          simp [SandboxRecord.keeping, Sandbox.record]

/-- Without statistics of containers no sandbox has units and none of them is missed. -/
theorem joinSandboxes_noStats (left : Groups) :
    joinSandboxes usage none sandboxes left =
      ((joinSandboxes usage (some index) sandboxes groups).1.map (·.keeping true false), [],
        left) := by
  induction sandboxes generalizing groups with
  | nil => rfl
  | cons sandbox rest ih =>
      unfold joinSandboxes
      simp only
      rw [@ih (groups.erase sandbox.id)]
      rfl

/-- Neither do sandboxes have units when there are no containers. -/
theorem joinSandboxes_noContainers {vacant : Groups} (none : ∀ id, vacant.getD id #[] = #[])
    (known : Std.HashMap String ContainerStats) :
    ((joinSandboxes usage (some known) sandboxes vacant).1 =
      (joinSandboxes usage (some index) sandboxes groups).1.map (·.keeping true false)) ∧
    (joinSandboxes usage (some known) sandboxes vacant).2.1 = [] := by
  induction sandboxes generalizing groups vacant with
  | nil => exact ⟨rfl, rfl⟩
  | cons sandbox rest ih =>
      have erased : ∀ id, (vacant.erase sandbox.id).getD id #[] = #[] := by
        intro id
        rw [Std.HashMap.getD_erase, none id, ite_self]
      obtain ⟨records, misses⟩ := @ih (groups.erase sandbox.id) _ erased
      unfold joinSandboxes
      simp only [none sandbox.id, joinUnits]
      rw [records, misses]
      exact ⟨rfl, rfl⟩

/-! ## Misses -/

/-- Whether a fault says that a container has nothing to be joined to. -/
def IsMiss (fault : Fault) : Prop :=
  ∃ container sandbox missing, fault = .correlationMiss container sandbox missing

theorem isMiss_joinUnits {sandbox : Sandbox} {containers : List Container} {fault : Fault}
    (hfault : fault ∈ (joinUnits index sandbox containers).2) : IsMiss fault := by
  induction containers with
  | nil => cases hfault
  | cons container rest ih =>
      unfold joinUnits at hfault
      obtain ⟨units, faults⟩ := joinUnits index sandbox rest
      simp only at hfault
      split at hfault
      · exact ih hfault
      · rcases List.mem_cons.mp hfault with rfl | later
        · exact ⟨_, _, _, rfl⟩
        · exact ih later

theorem isMiss_joinSandboxes {stats : Option (Std.HashMap String ContainerStats)} {fault : Fault}
    (hfault : fault ∈ (joinSandboxes usage stats sandboxes groups).2.1) : IsMiss fault := by
  induction sandboxes generalizing groups with
  | nil => cases hfault
  | cons sandbox rest ih =>
      unfold joinSandboxes at hfault
      cases stats with
      | none => exact ih hfault
      | some index =>
          rcases List.mem_append.mp hfault with own | later
          · exact isMiss_joinUnits own
          · exact ih later

/-- The join reports nothing but misses. -/
theorem isMiss_join {listings : Listings} {reportOrphans : Bool} {fault : Fault}
    (hfault : fault ∈ (join listings reportOrphans).2) : IsMiss fault := by
  rcases List.mem_append.mp hfault with listed | orphan
  · exact isMiss_joinSandboxes listed
  · split at orphan
    · obtain ⟨container, -, rfl⟩ := List.mem_map.mp orphan
      exact ⟨_, _, _, rfl⟩
    · cases orphan

/-! ## Whole joins -/

variable (listings : Listings) (reportOrphans : Bool)

theorem join_noSandboxes :
    join { listings with sandboxes := none } reportOrphans = ([], []) := by
  simp [join, joinSandboxes]

theorem join_noSandboxStats (stats : List SandboxStats) :
    join { listings with sandboxStats := none } reportOrphans =
      ((join { listings with sandboxStats := some stats } reportOrphans).1.map
          (·.keeping false true),
        (join { listings with sandboxStats := some stats } reportOrphans).2) := by
  have empty : indexByOwner SandboxStats.owner [] = ∅ := rfl
  unfold join
  simp only [Option.getD_none, empty]
  rw [@joinSandboxes_noUsage (indexByOwner SandboxStats.owner ((some stats).getD []))]

theorem join_noContainerStats (containers : List Container) (stats : List ContainerStats) :
    join { listings with containerStats := none } reportOrphans =
      ((join { listings with
            containers := some containers, containerStats := some stats } reportOrphans).1.map
          (·.keeping true false), []) := by
  unfold join
  simp only [Option.map_none, Option.map_some]
  rw [@joinSandboxes_noStats _ (indexByOwner ContainerStats.owner stats) _
    (groupBySandbox ((some containers).getD []))]
  simp

theorem join_noContainers (containers : List Container) (stats : List ContainerStats) :
    join { listings with containers := none, containerStats := some stats } reportOrphans =
      ((join { listings with
            containers := some containers, containerStats := some stats } reportOrphans).1.map
          (·.keeping true false), []) := by
  have vacant : ∀ id, (groupBySandbox []).getD id #[] = #[] := by
    intro id
    exact Std.HashMap.getD_empty
  obtain ⟨records, misses⟩ := @joinSandboxes_noContainers
    (indexByOwner SandboxStats.owner (listings.sandboxStats.getD []))
    (indexByOwner ContainerStats.owner stats) (listings.sandboxes.getD [])
    (groupBySandbox ((some containers).getD [])) _ vacant (indexByOwner ContainerStats.owner stats)
  unfold join
  simp only [Option.getD_none, Option.map_some, records, misses]
  simp

/-- The two ways of losing the units, together. -/
theorem join_unitsKnown (sandboxes : List Sandbox) (sandboxStats : Option (List SandboxStats))
    (containers : List Container) (containerStats : List ContainerStats)
    (hasContainers hasContainerStats : Bool) :
    join
        { sandboxes := some sandboxes
          sandboxStats
          containers := if hasContainers then some containers else none
          containerStats := if hasContainerStats then some containerStats else none }
        reportOrphans =
      ((join ⟨some sandboxes, sandboxStats, some containers, some containerStats⟩
          reportOrphans).1.map (·.keeping true (hasContainers && hasContainerStats)),
        if hasContainers && hasContainerStats then
          (join ⟨some sandboxes, sandboxStats, some containers, some containerStats⟩
            reportOrphans).2
        else []) := by
  cases hasContainerStats with
  | false =>
      rw [Bool.and_false]
      exact join_noContainerStats ⟨some sandboxes, sandboxStats, _, none⟩ reportOrphans
        containers containerStats
  | true =>
      cases hasContainers with
      | false =>
          exact join_noContainers ⟨some sandboxes, sandboxStats, none, none⟩ reportOrphans
            containers containerStats
      | true => simp

/-- What is left of a join of four listings when only some of them are known. -/
theorem join_known (sandboxes : List Sandbox) (sandboxStats : List SandboxStats)
    (containers : List Container) (containerStats : List ContainerStats)
    (hasSandboxes hasSandboxStats hasContainers hasContainerStats : Bool) :
    join
        { sandboxes := if hasSandboxes then some sandboxes else none
          sandboxStats := if hasSandboxStats then some sandboxStats else none
          containers := if hasContainers then some containers else none
          containerStats := if hasContainerStats then some containerStats else none }
        reportOrphans =
      (if hasSandboxes then
          (join ⟨some sandboxes, some sandboxStats, some containers, some containerStats⟩
            reportOrphans).1.map (·.keeping hasSandboxStats (hasContainers && hasContainerStats))
        else [],
        if hasSandboxes && hasContainers && hasContainerStats then
          (join ⟨some sandboxes, some sandboxStats, some containers, some containerStats⟩
            reportOrphans).2
        else []) := by
  cases hasSandboxes with
  | false => exact join_noSandboxes ⟨none, _, _, _⟩ reportOrphans
  | true =>
      simp only [if_true, Bool.true_and]
      rw [join_unitsKnown]
      cases hasSandboxStats with
      | true => rfl
      | false =>
          have withoutUsage := join_noSandboxStats
            ⟨some sandboxes, none, some containers, some containerStats⟩ reportOrphans
            sandboxStats
          simp only [Bool.false_eq_true, if_false, withoutUsage, List.map_map]
          rfl

end Inventory

end NodeTelemetry
