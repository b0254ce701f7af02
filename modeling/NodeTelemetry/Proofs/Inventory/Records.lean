/-
# Records of a join

A record shows the usage in the statistics that belong to its id, and so does each unit in
it. Of several statistics with one id the last belongs to it.
-/

import Mathlib.Data.List.Induction
import NodeTelemetry.Inventory.Join

namespace NodeTelemetry.Inventory

/-! ## Indexes -/

section Index

variable {α : Type} (owner : α → Option String)

/-- The statistics that belong to an id: the last that name it as their owner. -/
def joined? (stats : List α) (id : String) : Option α :=
  stats.reverse.find? fun entry => owner entry == some id

theorem joined?_concat (stats : List α) (entry : α) (id : String) :
    joined? owner (stats ++ [entry]) id =
      if owner entry = some id then some entry else joined? owner stats id := by
  unfold joined?
  rw [List.reverse_append, List.reverse_singleton, List.singleton_append, List.find?_cons]
  split
  · next own => rw [if_pos (eq_of_beq own)]
  · next foreign => rw [if_neg (ne_of_beq_false foreign)]

theorem joined?_map {β : Type} (read : β → α) (stats : List β) (id : String) :
    joined? owner (stats.map read) id =
      (joined? (fun entry => owner (read entry)) stats id).map read := by
  unfold joined?
  rw [← List.map_reverse, List.find?_map]
  rfl

theorem indexByOwner_concat (stats : List α) (entry : α) :
    indexByOwner owner (stats ++ [entry]) =
      match owner entry with
      | none => indexByOwner owner stats
      | some id => (indexByOwner owner stats).insert id entry := by
  unfold indexByOwner
  rw [List.foldl_append]
  rfl

/-- Looking an id up in the index finds the statistics that belong to it. -/
theorem getElem?_indexByOwner (stats : List α) (id : String) :
    (indexByOwner owner stats)[id]? = joined? owner stats id := by
  induction stats using List.reverseRecOn with
  | nil => exact Std.HashMap.getElem?_empty
  | append_singleton stats entry ih =>
      rw [indexByOwner_concat, joined?_concat]
      cases named : owner entry with
      | none => exact ih
      | some own =>
          simp only [Std.HashMap.getElem?_insert, ih, beq_iff_eq, Option.some.injEq]

end Index

/-! ## Records -/

/-- A record is that of a sandbox, with the usage in the statistics that belong to it and
with units that have the usage in theirs. -/
structure IsRecord (sandboxStats : List SandboxStats) (containerStats : List ContainerStats)
    (record : SandboxRecord) : Prop where
  usage : record.usage =
    ((joined? SandboxStats.owner sandboxStats record.id).bind (·.linux)).map LinuxStats.usage
  units : ∀ unit ∈ record.units, ∃ (container : Container) (stats : ContainerStats),
    joined? ContainerStats.owner containerStats unit.id = some stats ∧
      unit = container.record stats

theorem mem_joinUnits {index : Std.HashMap String ContainerStats} {sandbox : Sandbox}
    {containers : List Container} {unit : UnitRecord}
    (member : unit ∈ (joinUnits index sandbox containers).1) :
    ∃ container ∈ containers, ∃ stats, index[container.id]? = some stats ∧
      unit = container.record stats := by
  induction containers with
  | nil => cases member
  | cons container rest ih =>
      unfold joinUnits at member
      simp only at member
      split at member
      · next stats found =>
          rcases List.mem_cons.mp member with rfl | later
          · exact ⟨container, List.mem_cons_self, stats, found, rfl⟩
          · obtain ⟨other, listed, entry⟩ := ih later
            exact ⟨other, List.mem_cons_of_mem _ listed, entry⟩
      · obtain ⟨other, listed, entry⟩ := ih member
        exact ⟨other, List.mem_cons_of_mem _ listed, entry⟩

/-- What a record is made of, over any indexes. -/
theorem mem_joinSandboxes {usage : Std.HashMap String SandboxStats}
    {stats : Option (Std.HashMap String ContainerStats)} {sandboxes : List Sandbox}
    {groups : Groups} {record : SandboxRecord}
    (member : record ∈ (joinSandboxes usage stats sandboxes groups).1) :
    ∃ sandbox ∈ sandboxes, ∃ units,
      record =
        sandbox.record ((usage[sandbox.id]?.bind (·.linux)).map LinuxStats.usage) units ∧
      ∀ unit ∈ units, ∃ index, stats = some index ∧ ∃ (container : Container) (entry : _),
        index[container.id]? = some entry ∧ unit = container.record entry := by
  induction sandboxes generalizing groups with
  | nil => cases member
  | cons sandbox rest ih =>
      unfold joinSandboxes at member
      cases stats with
      | none =>
          rcases List.mem_cons.mp member with own | later
          · exact ⟨sandbox, List.mem_cons_self, [], own, fun _ none => absurd none List.not_mem_nil⟩
          · obtain ⟨other, listed, made⟩ := ih later
            exact ⟨other, List.mem_cons_of_mem _ listed, made⟩
      | some index =>
          rcases List.mem_cons.mp member with own | later
          · refine ⟨sandbox, List.mem_cons_self, _, own, fun unit joined => ?_⟩
            obtain ⟨container, -, entry⟩ := mem_joinUnits joined
            exact ⟨index, rfl, container, entry⟩
          · obtain ⟨other, listed, made⟩ := ih later
            exact ⟨other, List.mem_cons_of_mem _ listed, made⟩

/-- Every record of a join has the usage that belongs to its ids. -/
theorem isRecord_join {listings : Listings} {reportOrphans : Bool} {record : SandboxRecord}
    (member : record ∈ (join listings reportOrphans).1) :
    IsRecord (listings.sandboxStats.getD []) (listings.containerStats.getD []) record := by
  obtain ⟨sandbox, -, units, rfl, joined⟩ := mem_joinSandboxes member
  refine ⟨?_, fun unit listed => ?_⟩
  · rw [getElem?_indexByOwner]
    rfl
  · obtain ⟨index, indexed, container, entry, found, rfl⟩ := joined unit listed
    obtain ⟨stats, known, rfl⟩ := Option.map_eq_some_iff.mp indexed
    rw [getElem?_indexByOwner] at found
    rw [known]
    exact ⟨container, entry, found, rfl⟩

end NodeTelemetry.Inventory
