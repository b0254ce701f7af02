/-
# Accounting for containers

The join runs over indexes and takes groups out of one of them as it goes. What comes out
can be said without any index: each sandbox looks through the whole list of containers
for its own, and each container through the whole list of statistics. The first sandbox
with an id gets all containers of that id, and no sandbox after it gets any of them again,
so every container of a listed sandbox occurs once, in a unit or in a miss.

A listing of statistics that failed is not one without entries: then there are no units,
and nothing is missed.
-/

import Mathlib.Data.List.Induction
import Mathlib.Data.Multiset.Filter
import NodeTelemetry.Proofs.Inventory.Records

namespace NodeTelemetry

/-- The container that a fault says has nothing to be joined to. -/
def Fault.container? : Fault → Option String
  | .correlationMiss container _ _ => some container
  | _ => none

namespace Inventory

/-! ## The join without indexes -/

/-- Whether a sandbox with an id is listed. -/
def isListed (sandboxes : List Sandbox) (id : String) : Bool := sandboxes.any (·.id == id)

/-- The containers that fall to an id which is listed after other sandboxes: those with
that id, unless one of the others has it as well. -/
def falling (containers : List Container) (earlier : List Sandbox) (id : String) :
    List Container :=
  if isListed earlier id then [] else containers.filter (·.sandboxId == id)

/-- Each sandbox with the containers that fall to it, when others are listed before. -/
def shares (containers : List Container) (earlier sandboxes : List Sandbox) :
    List (Sandbox × List Container) :=
  sandboxes.mapIdx fun index sandbox =>
    (sandbox, falling containers (earlier ++ sandboxes.take index) sandbox.id)

/-- The usage of a sandbox, as the statistics that belong to it have it. -/
def usageOf (stats : List SandboxStats) (sandbox : Sandbox) : Option SandboxUsage :=
  ((joined? SandboxStats.owner stats sandbox.id).bind (·.linux)).map LinuxStats.usage

/-- The containers that have statistics, joined to them. Without a listing of statistics
there are none. -/
def unitsOf (stats : Option (List ContainerStats)) (containers : List Container) :
    List UnitRecord :=
  match stats with
  | none => []
  | some stats => containers.filterMap fun container =>
      (joined? ContainerStats.owner stats container.id).map container.record

/-- The containers of a sandbox that have no statistics in the listing of them, if there
is one. -/
def missesOf (stats : Option (List ContainerStats)) (sandbox : Sandbox)
    (containers : List Container) : List Fault :=
  match stats with
  | none => []
  | some stats => (containers.filter fun container =>
      (joined? ContainerStats.owner stats container.id).isNone).map (missingStats · sandbox)

/-- The join as nested searches: in each sandbox for its containers, in each container for
its statistics. -/
def nestedJoin (listings : Listings) (reportOrphans : Bool) : List SandboxRecord × List Fault :=
  let sandboxes := listings.sandboxes.getD []
  let containers := listings.containers.getD []
  let shared := shares containers [] sandboxes
  let orphans :=
    if reportOrphans && listings.sandboxes.isSome && listings.containerStats.isSome then
      (containers.filter fun container => !isListed sandboxes container.sandboxId).map
        missingSandbox
    else []
  (shared.map fun (sandbox, own) =>
      sandbox.record (usageOf (listings.sandboxStats.getD []) sandbox)
        (unitsOf listings.containerStats own),
    (shared.flatMap fun (sandbox, own) => missesOf listings.containerStats sandbox own) ++ orphans)

theorem shares_cons (containers : List Container) (earlier : List Sandbox) (sandbox : Sandbox)
    (rest : List Sandbox) :
    shares containers earlier (sandbox :: rest) =
      (sandbox, falling containers earlier sandbox.id) ::
        shares containers (earlier ++ [sandbox]) rest := by
  simp [shares, List.mapIdx_cons]

/-! ## Groups -/

theorem groupBySandbox_concat (containers : List Container) (container : Container) :
    groupBySandbox (containers ++ [container]) =
      (groupBySandbox containers).insert container.sandboxId
        (((groupBySandbox containers).getD container.sandboxId #[]).push container) := by
  unfold groupBySandbox
  rw [List.foldl_append]
  rfl

/-- A group holds the containers of one sandbox, in the order of the list. -/
theorem getD_groupBySandbox (containers : List Container) (id : String) :
    ((groupBySandbox containers).getD id #[]).toList =
      containers.filter (·.sandboxId == id) := by
  induction containers using List.reverseRecOn with
  | nil => exact congrArg Array.toList Std.HashMap.getD_empty
  | append_singleton containers container ih =>
      rw [groupBySandbox_concat, Std.HashMap.getD_insert, List.filter_append]
      by_cases own : container.sandboxId = id
      · subst own
        simp [ih]
      · simp [own, ih]

theorem contains_groupBySandbox (containers : List Container) (id : String) :
    (groupBySandbox containers).contains id = containers.any (·.sandboxId == id) := by
  induction containers using List.reverseRecOn with
  | nil => exact Std.HashMap.contains_empty
  | append_singleton containers container ih =>
      rw [groupBySandbox_concat, Std.HashMap.contains_insert, ih, List.any_append, Bool.or_comm]
      simp

/-- The groups that are left when some sandboxes have taken theirs. -/
structure Leaves (containers : List Container) (taken : List Sandbox) (groups : Groups) :
    Prop where
  group : ∀ id, (groups.getD id #[]).toList = falling containers taken id
  contains : ∀ id, groups.contains id =
    (!isListed taken id && containers.any (·.sandboxId == id))

theorem leaves_groupBySandbox (containers : List Container) :
    Leaves containers [] (groupBySandbox containers) where
  group := getD_groupBySandbox containers
  contains := contains_groupBySandbox containers

theorem Leaves.erase {containers : List Container} {taken : List Sandbox} {groups : Groups}
    (leaves : Leaves containers taken groups) (sandbox : Sandbox) :
    Leaves containers (taken ++ [sandbox]) (groups.erase sandbox.id) := by
  constructor
  · intro id
    rw [Std.HashMap.getD_erase]
    by_cases own : sandbox.id = id
    · simp [own, falling, isListed]
    · have same : falling containers (taken ++ [sandbox]) id = falling containers taken id := by
        simp [falling, own, isListed]
      rw [same, ← leaves.group id]
      simp [own]
  · intro id
    rw [Std.HashMap.contains_erase, leaves.contains id]
    unfold isListed
    rw [List.any_append, Bool.not_or, Bool.and_assoc, Bool.and_left_comm]
    simp

/-! ## The join over indexes -/

theorem joinUnits_eq (stats : List ContainerStats) (sandbox : Sandbox)
    (containers : List Container) :
    joinUnits (indexByOwner ContainerStats.owner stats) sandbox containers =
      (unitsOf (some stats) containers, missesOf (some stats) sandbox containers) := by
  induction containers with
  | nil => rfl
  | cons container rest ih =>
      unfold joinUnits
      rw [ih, getElem?_indexByOwner]
      cases found : joined? ContainerStats.owner stats container.id with
      | none => simp [unitsOf, missesOf, found]
      | some entry => simp [unitsOf, missesOf, found]

/-- Without statistics of containers nobody looks at the groups. -/
theorem joinSandboxes_unmeasured (sandboxStats : List SandboxStats) (containers : List Container)
    (taken sandboxes : List Sandbox) (groups : Groups) :
    joinSandboxes (indexByOwner SandboxStats.owner sandboxStats) none sandboxes groups =
      ((shares containers taken sandboxes).map fun (sandbox, own) =>
          sandbox.record (usageOf sandboxStats sandbox) (unitsOf none own),
        (shares containers taken sandboxes).flatMap fun (sandbox, own) =>
          missesOf none sandbox own,
        groups) := by
  induction sandboxes generalizing taken with
  | nil => rfl
  | cons sandbox rest ih =>
      unfold joinSandboxes
      rw [shares_cons, getElem?_indexByOwner]
      simp only
      rw [ih (taken ++ [sandbox])]
      rfl

/-- With them, each sandbox takes its share out of the groups, and what is left is what no
sandbox took. -/
theorem joinSandboxes_measured (sandboxStats : List SandboxStats) (stats : List ContainerStats)
    {containers : List Container} {taken : List Sandbox} {groups : Groups}
    (leaves : Leaves containers taken groups) (sandboxes : List Sandbox) :
    ∃ left, Leaves containers (taken ++ sandboxes) left ∧
      joinSandboxes (indexByOwner SandboxStats.owner sandboxStats)
          (some (indexByOwner ContainerStats.owner stats)) sandboxes groups =
        ((shares containers taken sandboxes).map fun (sandbox, own) =>
            sandbox.record (usageOf sandboxStats sandbox) (unitsOf (some stats) own),
          (shares containers taken sandboxes).flatMap fun (sandbox, own) =>
            missesOf (some stats) sandbox own,
          left) := by
  induction sandboxes generalizing taken groups with
  | nil => exact ⟨groups, by rwa [List.append_nil], rfl⟩
  | cons sandbox rest ih =>
      obtain ⟨left, leavesRest, joined⟩ := ih (leaves.erase sandbox)
      rw [List.append_assoc, List.singleton_append] at leavesRest
      refine ⟨left, leavesRest, ?_⟩
      unfold joinSandboxes
      rw [shares_cons, getElem?_indexByOwner]
      simp only
      rw [joined, leaves.group, joinUnits_eq]
      rfl

/-- The indexes change nothing about the join. -/
theorem join_eq_nestedJoin (listings : Listings) (reportOrphans : Bool) :
    join listings reportOrphans = nestedJoin listings reportOrphans := by
  obtain ⟨sandboxes, sandboxStats, containers, stats⟩ := listings
  unfold join nestedJoin
  simp only
  cases stats with
  | none =>
      rw [Option.map_none, joinSandboxes_unmeasured _ (containers.getD []) []]
      simp
  | some stats =>
      obtain ⟨left, leaves, joined⟩ := joinSandboxes_measured (sandboxStats.getD []) stats
        (leaves_groupBySandbox (containers.getD [])) (sandboxes.getD [])
      rw [Option.map_some, joined]
      have orphans : (containers.getD []).filter (fun container =>
            left.contains container.sandboxId) =
          (containers.getD []).filter fun container =>
            !isListed (sandboxes.getD []) container.sandboxId := by
        refine List.filter_congr fun container listed => ?_
        have grouped : (containers.getD []).any (·.sandboxId == container.sandboxId) = true :=
          List.any_eq_true.mpr ⟨container, listed, beq_self_eq_true _⟩
        rw [leaves.contains, grouped, Bool.and_true, List.nil_append]
      simp only [orphans]

/-! ## Every container once -/

/-- Entries of one kind and entries of another are those of either kind, if no entry is of
both. -/
private theorem filter_append_filter {α : Type} {first second : α → Bool}
    (apart : ∀ entry, first entry = true → second entry = false) (entries : List α) :
    (entries.filter first ++ entries.filter second).Perm
      (entries.filter fun entry => first entry || second entry) := by
  have both : (entries.filter fun entry => first entry || second entry).filter first =
      entries.filter first := by
    rw [List.filter_filter]
    exact List.filter_congr fun entry _ => by cases first entry <;> simp
  have rest : ((entries.filter fun entry => first entry || second entry).filter
      fun entry => !first entry) = entries.filter second := by
    rw [List.filter_filter]
    refine List.filter_congr fun entry _ => ?_
    cases known : first entry with
    | false => simp
    | true => simp [apart entry known]
  rw [← both, ← rest]
  exact List.filter_append_perm first _

theorem falling_eq (containers : List Container) (earlier : List Sandbox) (id : String) :
    falling containers earlier id =
      containers.filter fun container =>
        container.sandboxId == id && !isListed earlier container.sandboxId := by
  unfold falling
  split
  · next repeated =>
      refine (List.filter_eq_nil_iff.mpr fun container _ own => ?_).symm
      obtain ⟨same, first⟩ := Bool.and_eq_true_iff.mp own
      rw [eq_of_beq same] at first
      simp [repeated] at first
  · next first =>
      refine List.filter_congr fun container _ => ?_
      by_cases own : container.sandboxId = id
      · simp [own, first]
      · simp [own]

/-- The containers that fall to some sandboxes are those of these sandboxes and of none
before them. -/
theorem shared_perm (containers : List Container) (earlier sandboxes : List Sandbox) :
    ((shares containers earlier sandboxes).flatMap (·.2)).Perm
      (containers.filter fun container =>
        isListed sandboxes container.sandboxId && !isListed earlier container.sandboxId) := by
  induction sandboxes generalizing earlier with
  | nil => simp [shares, isListed]
  | cons sandbox rest ih =>
      rw [shares_cons, List.flatMap_cons]
      have first := falling_eq containers earlier sandbox.id
      refine ((List.Perm.of_eq first).append (ih _)).trans ?_
      refine (filter_append_filter ?_ containers).trans (.of_eq (List.filter_congr ?_))
      · intro container own
        have same := (Bool.and_eq_true_iff.mp own).1
        simp [isListed, eq_of_beq same]
      · intro container _
        by_cases own : container.sandboxId = sandbox.id
        · simp [own, isListed]
        · simp [beq_false_of_ne own, beq_false_of_ne (Ne.symm own), isListed]

variable {stats : List ContainerStats}

theorem ids_unitsOf (containers : List Container) :
    (unitsOf (some stats) containers).map (·.id) =
      (containers.filter fun container =>
        (joined? ContainerStats.owner stats container.id).isSome).map (·.id) := by
  induction containers with
  | nil => rfl
  | cons container rest ih =>
      unfold unitsOf at ih ⊢
      cases found : joined? ContainerStats.owner stats container.id with
      | none => simpa [found] using ih
      | some entry => simpa [found, Container.record] using ih

theorem ids_missesOf (sandbox : Sandbox) (containers : List Container) :
    (missesOf (some stats) sandbox containers).filterMap Fault.container? =
      (containers.filter fun container =>
        (joined? ContainerStats.owner stats container.id).isNone).map (·.id) := by
  unfold missesOf
  rw [List.filterMap_map]
  exact List.filterMap_eq_map_iff_forall_eq_some.mpr fun container _ => rfl

/-- Every container of a share has a unit or is missed. -/
theorem ids_perm (stats : List ContainerStats) (shared : List (Sandbox × List Container)) :
    ((shared.flatMap fun (_, own) => (unitsOf (some stats) own).map (·.id)) ++
      (shared.flatMap fun (sandbox, own) => missesOf (some stats) sandbox own).filterMap
        Fault.container?).Perm ((shared.flatMap (·.2)).map (·.id)) := by
  have units : (shared.flatMap fun (_, own) => (unitsOf (some stats) own).map (·.id)) =
      ((shared.flatMap (·.2)).filter fun container =>
        (joined? ContainerStats.owner stats container.id).isSome).map (·.id) := by
    rw [List.filter_flatMap, List.map_flatMap]
    exact List.flatMap_congr fun (_, own) _ => ids_unitsOf own
  have misses : (shared.flatMap fun (sandbox, own) =>
        missesOf (some stats) sandbox own).filterMap Fault.container? =
      ((shared.flatMap (·.2)).filter fun container =>
        !(joined? ContainerStats.owner stats container.id).isSome).map (·.id) := by
    rw [List.filterMap_flatMap, List.filter_flatMap, List.map_flatMap]
    refine List.flatMap_congr fun (sandbox, own) _ => ?_
    simp only [Option.not_isSome]
    exact ids_missesOf sandbox own
  rw [units, misses, ← List.map_append]
  exact (List.filter_append_perm _ _).map _

/-- What a join says about its containers. -/
structure JoinsOnce (listings : Listings) (reportOrphans : Bool) : Prop where
  /-- It says what the nested searches find. -/
  nested : join listings reportOrphans = nestedJoin listings reportOrphans
  /-- Each container of a listed sandbox occurs once, in a unit or in a fault; the others
  occur in faults once, if they are reported. -/
  once : listings.containerStats.isSome →
    ((join listings reportOrphans).1.flatMap (fun record => record.units.map (·.id)) ++
        (join listings reportOrphans).2.filterMap Fault.container?).Perm
      (((listings.containers.getD []).filter fun container =>
        isListed (listings.sandboxes.getD []) container.sandboxId ||
          (reportOrphans && listings.sandboxes.isSome)).map (·.id))

/-- The join finds what nested searches find, and accounts for every container once. -/
theorem joins_once (listings : Listings) (reportOrphans : Bool) :
    JoinsOnce listings reportOrphans := by
  have nested := join_eq_nestedJoin listings reportOrphans
  refine ⟨nested, fun measured => ?_⟩
  rw [nested]
  obtain ⟨sandboxes, sandboxStats, containers, stats⟩ := listings
  obtain ⟨stats, rfl⟩ := Option.isSome_iff_exists.mp measured
  unfold nestedJoin
  simp only [Option.isSome_some, Bool.and_true]
  rw [List.flatMap_map, List.filterMap_append, ← List.append_assoc]
  have shared :=
    (ids_perm stats (shares (containers.getD []) [] (sandboxes.getD []))).trans
      ((shared_perm (containers.getD []) [] (sandboxes.getD [])).map (·.id))
  refine (List.Perm.append_right _ shared).trans ?_
  have listed : ∀ container : Container,
      (isListed (sandboxes.getD []) container.sandboxId && !isListed [] container.sandboxId) =
        isListed (sandboxes.getD []) container.sandboxId := fun container => Bool.and_true _
  simp only [listed]
  cases reported : reportOrphans && sandboxes.isSome with
  | false => simp
  | true =>
      have orphans : (((containers.getD []).filter fun container =>
            !isListed (sandboxes.getD []) container.sandboxId).map missingSandbox).filterMap
              Fault.container? =
          ((containers.getD []).filter fun container =>
            !isListed (sandboxes.getD []) container.sandboxId).map (·.id) := by
        rw [List.filterMap_map]
        exact List.filterMap_eq_map_iff_forall_eq_some.mpr fun container _ => rfl
      simp only [if_true, orphans, ← List.map_append, Bool.or_true, List.filter_true]
      exact (List.filter_append_perm _ _).map _

end Inventory

end NodeTelemetry
