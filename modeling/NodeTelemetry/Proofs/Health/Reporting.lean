/-
# Reports that do not disturb each other

A report gives verdicts on the components that it concerns and leaves the others as they
are. So the verdict on a component is the one of the last report that concerned it, and the
overall status is the worst of these, in whatever order they are looked at. Collecting and
delivering report on different components. However their reports are interleaved, and
whenever each of them is made, the answers in the end are the same but for the times of the
verdicts.
-/

import NodeTelemetry.Health.Json
import NodeTelemetry.Journal

namespace NodeTelemetry.Health

/-! ## Statuses -/

namespace Status

/-- How bad a status is. -/
def severity : Status → Nat
  | .healthy => 0
  | .degraded => 1
  | .unhealthy => 2

theorem severity_worse (first second : Status) :
    (first.worse second).severity = max first.severity second.severity := by
  cases first <;> cases second <;> rfl

theorem severity_inj {first second : Status} (same : first.severity = second.severity) :
    first = second := by
  cases first <;> cases second <;> first | rfl | cases same

theorem worse_eq (first second : Status) :
    first.worse second = first ∨ first.worse second = second := by
  cases first <;> cases second <;> decide

/-- A status is the worst of some: none of them is worse, and it is one of them unless all
is well. -/
structure IsWorst (statuses : List Status) (status : Status) : Prop where
  present : status = .healthy ∨ status ∈ statuses
  worst : ∀ other ∈ statuses, other.severity ≤ status.severity

namespace IsWorst

variable {statuses others : List Status} {first second status : Status}

theorem severity_le (isFirst : IsWorst statuses first) (isSecond : IsWorst statuses second) :
    first.severity ≤ second.severity := by
  rcases isFirst.present with rfl | listed
  · exact Nat.zero_le _
  · exact isSecond.worst first listed

/-- There is no more than one worst status. -/
theorem unique (isFirst : IsWorst statuses first) (isSecond : IsWorst statuses second) :
    first = second :=
  severity_inj (Nat.le_antisymm (isFirst.severity_le isSecond) (isSecond.severity_le isFirst))

theorem of_perm (isWorst : IsWorst statuses status) (reordered : others.Perm statuses) :
    IsWorst others status :=
  ⟨isWorst.present.imp_right reordered.mem_iff.mpr,
    fun other listed => isWorst.worst other (reordered.mem_iff.mp listed)⟩

end IsWorst

theorem isWorst_worst (statuses : List Status) : IsWorst statuses (worst statuses) := by
  -- While folding, what was met so far is summed up by the worst of it.
  have folded : ∀ start,
      (statuses.foldl worse start = start ∨ statuses.foldl worse start ∈ statuses) ∧
      start.severity ≤ (statuses.foldl worse start).severity ∧
      ∀ other ∈ statuses, other.severity ≤ (statuses.foldl worse start).severity := by
    induction statuses with
    | nil => exact fun start => ⟨.inl rfl, Nat.le_refl _, List.forall_mem_nil _⟩
    | cons first rest ih =>
        intro start
        obtain ⟨found, atLeast, others⟩ := ih (start.worse first)
        rw [severity_worse] at atLeast
        rw [List.foldl_cons]
        refine ⟨?_, by omega, List.forall_mem_cons.mpr ⟨by omega, others⟩⟩
        rcases found with same | later
        · rw [same]
          refine (worse_eq start first).imp_right fun isFirst => ?_
          rw [isFirst]
          exact List.mem_cons_self
        · exact .inr (List.mem_cons_of_mem _ later)
  obtain ⟨found, -, others⟩ := folded .healthy
  exact ⟨found, others⟩

end Status

/-! ## Single reports -/

namespace Report

/-- The verdict that a report gives on a component, if it concerns the component. -/
def verdict? : Report → Component → Option Verdict
  | .registerAll, _ => some .healthy
  | .collection faults, .collector => some (.ofCollection faults)
  | .collection faults, .runtime => some (.ofRuntime (faults.filterMap Fault.failedSource?))
  | .runtime failed, .runtime => some (.ofRuntime failed)
  | .link state buffered, .relay => Verdict.ofLink state buffered
  | .backlog length capacity, .backlog => some (.ofBacklog length capacity)
  | _, _ => none

/-- What a report says about whether the program is wired up. -/
def wired? : Report → Option Bool
  | .ready value => some value
  | _ => none

/-- The reports that are made by collecting: on collections, on the runtime, and on how full
they have made the backlog. -/
def IsCollecting : Report → Prop
  | .collection _ | .runtime _ | .backlog .. => True
  | _ => False

/-- The reports that are made by delivering: on the link. -/
def IsDelivering : Report → Prop
  | .link .. => True
  | _ => False

end Report

namespace Registry

variable (registry : Registry) (now : Int64) (report : Report) (component : Component)

/-- The verdict on a component, whenever it was made. -/
def verdict? : Option Verdict := (registry.find? component).map Entry.verdict

/-- A report writes its verdicts into the registry and changes no other. -/
theorem find?_record :
    (registry.record now report).find? component =
      ((report.verdict? component).map fun verdict => ⟨verdict, now⟩).or
        (registry.find? component) := by
  cases report with
  | link state buffered =>
      unfold record
      cases judged : Verdict.ofLink state buffered with
      | none => cases component <;> simp [Report.verdict?, judged]
      | some verdict => cases component <;> simp [Report.verdict?, judged, find?]
  | _ => cases component <;> rfl

theorem ready_record :
    (registry.record now report).ready = report.wired?.getD registry.ready := by
  cases report with
  | link state buffered =>
      simp only [record]
      split <;> rfl
  | _ => rfl

/-! ## Sequences of reports -/

/-- The registry after some reports, each with the second at which it is made. -/
def recordAll (reports : List (Int64 × Report)) : Registry :=
  reports.foldl (fun registry (now, report) => registry.record now report) registry

theorem recordAll_append (earlier later : List (Int64 × Report)) :
    registry.recordAll (earlier ++ later) = (registry.recordAll earlier).recordAll later :=
  List.foldl_append

/-- Reports that do not concern a component leave it as it is. -/
theorem find?_recordAll_of_unconcerned {reports : List (Int64 × Report)}
    (unconcerned : ∀ entry ∈ reports, entry.2.verdict? component = none) :
    (registry.recordAll reports).find? component = registry.find? component := by
  induction reports generalizing registry with
  | nil => rfl
  | cons entry later ih =>
      obtain ⟨first, rest⟩ := List.forall_mem_cons.mp unconcerned
      refine (ih (registry.record entry.1 entry.2) rest).trans ?_
      rw [find?_record, first]
      rfl

/-- Of several reports that concern a component the last one counts. -/
theorem find?_recordAll_of_last {earlier later : List (Int64 × Report)} {verdict : Verdict}
    (concerns : report.verdict? component = some verdict)
    (last : ∀ entry ∈ later, entry.2.verdict? component = none) :
    (registry.recordAll (earlier ++ (now, report) :: later)).find? component =
      some ⟨verdict, now⟩ := by
  rw [recordAll_append]
  refine (find?_recordAll_of_unconcerned _ component last).trans ?_
  rw [find?_record, concerns]
  rfl

/-- A verdict is the same whenever the reports are made. -/
theorem verdict?_recordAll (reports : List (Int64 × Report)) :
    (registry.recordAll reports).verdict? component =
      (reports.map (·.2)).foldl (fun held report => (report.verdict? component).or held)
        (registry.verdict? component) := by
  induction reports generalizing registry with
  | nil => rfl
  | cons entry later ih =>
      have recorded : (registry.record entry.1 entry.2).verdict? component =
          (entry.2.verdict? component).or (registry.verdict? component) := by
        unfold verdict?
        rw [find?_record, Option.map_or, Option.map_map]
        exact congrArg (Option.or · _) Option.map_id'
      rw [List.map_cons, List.foldl_cons, ← recorded]
      exact ih (registry.record entry.1 entry.2)

theorem ready_recordAll (reports : List (Int64 × Report)) :
    (registry.recordAll reports).ready =
      (reports.map (·.2)).foldl (fun held report => report.wired?.getD held) registry.ready := by
  induction reports generalizing registry with
  | nil => rfl
  | cons entry later ih =>
      rw [List.map_cons, List.foldl_cons, ← ready_record]
      exact ih (registry.record entry.1 entry.2)

/-- The statuses of what was judged. -/
theorem isWorst_status {order : List (Component × Entry)}
    (reordered : order.Perm registry.entries) :
    Status.IsWorst (order.map fun (_, entry) => entry.verdict.status) registry.status :=
  (Status.isWorst_worst _).of_perm (reordered.map _)

end Registry

/-! ## Interleaved reports -/

/-- Two sequences run into one, each in its own order. -/
inductive Interleaves {α : Type} : List α → List α → List α → Prop where
  | nil : Interleaves [] [] []
  | left {first second both : List α} (entry : α) (rest : Interleaves first second both) :
      Interleaves (entry :: first) second (entry :: both)
  | right {first second both : List α} (entry : α) (rest : Interleaves first second both) :
      Interleaves first (entry :: second) (entry :: both)

namespace Interleaves

variable {α β : Type} {first second both : List α} {fold : β → α → β}

theorem symm (interleaves : Interleaves first second both) : Interleaves second first both := by
  induction interleaves with
  | nil => exact .nil
  | left entry rest ih => exact ih.right entry
  | right entry rest ih => exact ih.left entry

/-- What one of the sequences does not touch is decided by the other one. -/
theorem foldl_eq (interleaves : Interleaves first second both)
    (untouched : ∀ entry ∈ second, ∀ held, fold held entry = held) (held : β) :
    both.foldl fold held = first.foldl fold held := by
  induction interleaves generalizing held with
  | nil => rfl
  | left entry rest ih => exact ih untouched (fold held entry)
  | right entry rest ih =>
      obtain ⟨now, later⟩ := List.forall_mem_cons.mp untouched
      rw [List.foldl_cons, now held]
      exact ih later held

end Interleaves

/-- An answer without the times at which the verdicts were made. -/
def HealthAnswer.untimed (answer : HealthAnswer) : Status × List (String × Verdict) :=
  (answer.status, answer.components.map fun (name, entry) => (name, entry.verdict))

namespace Registry

/-- The same verdicts on all components, whenever they were made, and the same word on
whether the program is wired up. -/
structure Agrees (registry other : Registry) : Prop where
  verdicts : ∀ component, registry.verdict? component = other.verdict? component
  ready : registry.ready = other.ready

namespace Agrees

variable {registry other : Registry}

theorem judged (agrees : registry.Agrees other) :
    (registry.entries.map fun (component, entry) => (component, entry.verdict)) =
      other.entries.map fun (component, entry) => (component, entry.verdict) := by
  have listed : ∀ registry : Registry,
      (registry.entries.map fun (component, entry) => (component, entry.verdict)) =
        Component.all.filterMap fun component =>
          (registry.verdict? component).map fun verdict => (component, verdict) := by
    intro registry
    unfold entries verdict?
    rw [List.map_filterMap]
    simp only [Option.map_map]
    rfl
  rw [listed, listed]
  simp only [agrees.verdicts]

theorem status (agrees : registry.Agrees other) : registry.status = other.status := by
  have statuses := congrArg (List.map fun entry : Component × Verdict => entry.2.status)
    agrees.judged
  rw [List.map_map, List.map_map] at statuses
  exact congrArg Status.worst statuses

theorem healthAnswer (agrees : registry.Agrees other) :
    registry.healthAnswer.untimed = other.healthAnswer.untimed := by
  have components := congrArg
    (List.map fun entry : Component × Verdict => (entry.1.name, entry.2)) agrees.judged
  rw [List.map_map, List.map_map] at components
  unfold HealthAnswer.untimed Registry.healthAnswer
  rw [List.map_map, List.map_map, agrees.status]
  exact congrArg _ components

theorem readinessAnswer (agrees : registry.Agrees other) :
    registry.readinessAnswer = other.readinessAnswer := by
  have reason : registry.unreadyReason? = other.unreadyReason? := by
    unfold unreadyReason?
    rw [agrees.ready, agrees.status]
  unfold Registry.readinessAnswer
  rw [reason]

end Agrees

/-- What collecting reports on is nothing that delivering reports on. -/
theorem unconcerned_or_unconcerned {collecting delivering : List Report}
    (isCollecting : ∀ report ∈ collecting, report.IsCollecting)
    (isDelivering : ∀ report ∈ delivering, report.IsDelivering) (component : Component) :
    (∀ report ∈ collecting, report.verdict? component = none) ∨
      ∀ report ∈ delivering, report.verdict? component = none := by
  cases component with
  | relay =>
      left
      intro report reported
      have about := isCollecting report reported
      cases report <;> first | rfl | exact about.elim
  | _ =>
      right
      intro report reported
      have about := isDelivering report reported
      cases report <;> first | rfl | exact about.elim

/-- Interleaving the same reports in another way, at other times, gives the same. -/
theorem agrees_of_interleaves (registry : Registry) {collecting delivering : List Report}
    (isCollecting : ∀ report ∈ collecting, report.IsCollecting)
    (isDelivering : ∀ report ∈ delivering, report.IsDelivering)
    {reports others : List (Int64 × Report)}
    (interleaves : Interleaves collecting delivering (reports.map (·.2)))
    (otherwise : Interleaves collecting delivering (others.map (·.2))) :
    (registry.recordAll others).Agrees (registry.recordAll reports) := by
  refine ⟨fun component => ?_, ?_⟩
  · rw [verdict?_recordAll, verdict?_recordAll]
    -- The reports that do not concern the component can be left out of both sequences.
    have untouched : ∀ {side : List Report},
        (∀ report ∈ side, report.verdict? component = none) →
        ∀ report ∈ side, ∀ held, (report.verdict? component).or held = held := by
      intro side silent report reported held
      rw [silent report reported, Option.none_or]
    rcases unconcerned_or_unconcerned isCollecting isDelivering component with silent | silent
    · exact (otherwise.symm.foldl_eq (untouched silent) _).trans
        (interleaves.symm.foldl_eq (untouched silent) _).symm
    · exact (otherwise.foldl_eq (untouched silent) _).trans
        (interleaves.foldl_eq (untouched silent) _).symm
  · have unwired : ∀ report ∈ delivering, ∀ held, report.wired?.getD held = held := by
      intro report reported held
      have about := isDelivering report reported
      cases report <;> first | rfl | exact about.elim
    rw [ready_recordAll, ready_recordAll]
    exact (otherwise.foldl_eq unwired _).trans (interleaves.foldl_eq unwired _).symm

/-- What is promised of a registry to which some reports are made. -/
structure Undisturbed (registry : Registry) (reports : List (Int64 × Report)) : Prop where
  /-- The verdict on a component is given by the last report that concerns it, -/
  latest : ∀ component earlier now report later verdict,
    reports = earlier ++ (now, report) :: later → report.verdict? component = some verdict →
    (∀ entry ∈ later, entry.2.verdict? component = none) →
    (registry.recordAll reports).find? component = some ⟨verdict, now⟩
  /-- and it stays as it was if no report concerns it. -/
  unconcerned : ∀ component, (∀ entry ∈ reports, entry.2.verdict? component = none) →
    (registry.recordAll reports).find? component = registry.find? component
  /-- The overall status is the worst one that is present, and it is found in whatever order
  the components are looked at. -/
  status : ∀ order : List (Component × Entry),
    order.Perm (registry.recordAll reports).entries →
    Status.worst (order.map fun (_, entry) => entry.verdict.status) =
        (registry.recordAll reports).healthAnswer.status ∧
      Status.IsWorst (order.map fun (_, entry) => entry.verdict.status)
        (registry.recordAll reports).healthAnswer.status
  /-- If the reports are those of collecting and of delivering in some interleaving, every
  other interleaving of them gives the same answers, at whatever times they are made. -/
  interleaved : ∀ collecting delivering, (∀ report ∈ collecting, report.IsCollecting) →
    (∀ report ∈ delivering, report.IsDelivering) →
    Interleaves collecting delivering (reports.map (·.2)) →
    ∀ others : List (Int64 × Report),
      Interleaves collecting delivering (others.map (·.2)) →
      (registry.recordAll others).healthAnswer.untimed =
          (registry.recordAll reports).healthAnswer.untimed ∧
        (registry.recordAll others).readinessAnswer =
          (registry.recordAll reports).readinessAnswer

/-- Reports to a registry do not disturb each other, whatever it held before; in particular
not after all components have been registered. -/
theorem undisturbed (registry : Registry) (reports : List (Int64 × Report)) :
    registry.Undisturbed reports where
  latest component earlier now report later verdict split concerns last := by
    subst split
    exact registry.find?_recordAll_of_last now report component concerns last
  unconcerned component silent := registry.find?_recordAll_of_unconcerned component silent
  status order reordered := by
    have isWorst := isWorst_status (registry.recordAll reports) reordered
    exact ⟨(Status.isWorst_worst _).unique isWorst, isWorst⟩
  interleaved collecting delivering isCollecting isDelivering interleaves others otherwise := by
    have agrees := registry.agrees_of_interleaves isCollecting isDelivering interleaves otherwise
    exact ⟨agrees.healthAnswer, agrees.readinessAnswer⟩

/-- The runtime fails and works again while the link comes and goes. -/
example :
    let collecting : List Report :=
      [.runtime Source.runtime, .backlog 1 4, .collection [], .backlog 4 4]
    let delivering : List Report :=
      [.link .backoff 1, .link .connected 0, .link .terminated 4]
    let registered := Registry.record 0 {} .registerAll
    let answer (reports : List Report) :=
      (registered.recordAll (reports.map ((1, ·)))).healthAnswer.untimed
    answer (collecting ++ delivering) = answer (delivering ++ collecting) ∧
      answer (delivering ++ collecting) =
        (.degraded, [("collector", .healthy), ("runtime", .healthy), ("relay", .healthy),
          ("backlog", ⟨.degraded, some "backlog full at 4 snapshots"⟩)]) := by
  decide

end Registry

end NodeTelemetry.Health
