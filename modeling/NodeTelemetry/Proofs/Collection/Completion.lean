/-
# Collections are completed or leave nothing

What the collector of an agent does in a course is a list of deeds. A deed that completes a
collection leaves exactly what this collection leaves; all the others leave nothing, also
the one by which a running collection is given up. Until the moment at which it is called
off, a collector completes exactly the collections that end before that moment according to
its timetable, and at that moment it stops. So a collection that would be ready at that very
moment is given up like any other that is still running.
-/

import NodeTelemetry.Proofs.Collection.Recording
import NodeTelemetry.Proofs.Collection.Timetable

namespace NodeTelemetry

open Collection

/-- Something that a collector has done: the hub before and after it, and the collection that
was completed by it, if one was. -/
structure Deed where
  before : Hub
  after : Hub
  completes : Option Running

namespace Deed

/-- What a deed leaves in the stores: the findings of the collection that it completes, and
nothing else. -/
def Leaves (deed : Deed) : Prop :=
  deed.after.stores =
    match deed.completes with
    | none => deed.before.stores
    | some collection => deed.before.stores.collected collection.findings
        (collection.due - collection.since) deed.after.second

end Deed

namespace Collection.Collector

/-- Whatever a collector does, it completes a collection and leaves what this leaves, or it
leaves nothing. -/
theorem leaves_step (plan : Plan) (cancelled : Bool) (hub : Hub) (collector : Collector) :
    Deed.Leaves ⟨hub, (collector.step plan cancelled hub).1,
      completed? collector.phase (collector.step plan cancelled hub).2.phase⟩ := by
  obtain ⟨ticker, begun, phase⟩ := collector
  cases phase with
  | stopped => rfl
  | idle =>
      cases cancelled with
      | true => rfl
      | false => exact (hub.waitUntil ticker.due).stores_note_of_unseen rfl rfl rfl
  | running collection =>
      cases cancelled with
      | true => exact hub.stores_note_of_unseen rfl rfl rfl
      | false =>
          change (record _ _ _).stores = Stores.collected _ _ (record _ _ _).second _
          rw [Hub.stores_record, Hub.second_record]
          rfl

theorem epoch_step (plan : Plan) (cancelled : Bool) (hub : Hub) (collector : Collector) :
    (collector.step plan cancelled hub).1.epoch = hub.epoch := by
  obtain ⟨ticker, begun, phase⟩ := collector
  cases phase with
  | running collection =>
      cases cancelled with
      | true => rfl
      | false => exact Hub.epoch_record _ _ (hub.waitUntil collection.due)
  | _ => cases cancelled <;> rfl

end Collection.Collector

namespace Agent

variable {plan : NodeTelemetry.Plan} {origin agent next : Agent} {limit : Option Nat}
  {moment : Nat}

/-- What the collector does in a step of an agent, if it is its turn. -/
def deeds (agent next : Agent) : List Deed :=
  if agent.collects then
    [⟨agent.hub, next.hub, completed? agent.collector.phase next.collector.phase⟩]
  else []

/-- A deed is a step of the collector. -/
theorem eq_of_mem_deeds {deed : Deed} (step : agent.step? plan limit = some next)
    (done : deed ∈ agent.deeds next) :
    next = agent.stepCollector plan ∧
      before (agent.collector.dueAt? agent.session.cancelled agent.hub) limit = true ∧
      deed = ⟨agent.hub, (agent.stepCollector plan).hub,
        completed? agent.collector.phase (agent.stepCollector plan).collector.phase⟩ := by
  unfold deeds at done
  obtain ⟨turn, rfl, due⟩ | ⟨notTurn, -⟩ := step?_turn step
  · rw [if_pos turn] at done
    exact ⟨rfl, due, List.mem_singleton.mp done⟩
  · rw [if_neg (Bool.eq_false_iff.mp notTurn)] at done
    cases done

namespace Course

/-- What the collector does in a course, in order. -/
def deeds {agent : Agent} : Course plan origin agent → List Deed
  | .start => []
  | @Course.step _ _ before next course _ => course.deeds ++ before.deeds next
  | .wait course _ _ => course.deeds
  | .intervene course _ => course.deeds

/-- The collections that are completed in a course, in order. -/
def completions (course : Course plan origin agent) : List Running :=
  course.deeds.filterMap (·.completes)

/-- Whatever is done in a course is done before a moment. -/
def Before (moment : Nat) {agent : Agent} : Course plan origin agent → Prop
  | .start => True
  | @Course.step _ _ before next course _ =>
    course.Before moment ∧ before.step? plan (some moment) = some next
  | .wait course _ _ => course.Before moment
  | .intervene course _ => course.Before moment

theorem before_start : (Course.start : Course plan origin origin).Before moment := trivial

/-- The course of an agent up to a moment at which it has not been called off. -/
structure Until (moment : Nat) (course : Course plan origin agent) : Prop where
  before : course.Before moment
  now : agent.hub.now = moment
  goesOn : agent.session.cancelled = false

end Course

/-- All deeds leave what they should. -/
theorem Course.leaves (course : Course plan origin agent) :
    ∀ deed ∈ course.deeds, deed.Leaves := by
  induction course with
  | start => exact List.forall_mem_nil _
  | @step agent next course goesOn ih =>
      refine List.forall_mem_append.mpr ⟨ih, fun deed done => ?_⟩
      obtain ⟨-, -, rfl⟩ := eq_of_mem_deeds goesOn done
      exact Collector.leaves_step plan.collection agent.session.cancelled agent.hub
        agent.collector
  | wait course moment rests ih => exact ih
  | intervene course intervention ih => exact ih

/-- A course in which the collector keeps to its timetable. -/
structure Course.Keeps (table : Timetable) (count : Nat) (course : Course plan origin agent) :
    Prop where
  epoch : agent.hub.epoch = table.epoch
  completions : course.completions = (List.range count).map table.collection
  /-- Collections are completed when they end. -/
  onTime : ∀ deed ∈ course.deeds, ∀ collection ∈ deed.completes,
    deed.after.now = collection.due
  stands : table.Stands count agent.hub.now agent.collector

section Keeping

variable {table : Timetable} {count : Nat} {course : Course plan origin agent}

theorem Course.completions_step (step : agent.step? plan none = some next) :
    (course.step step).completions =
      course.completions ++ (agent.deeds next).filterMap (·.completes) :=
  List.filterMap_append

theorem deeds_stepCollector (turn : agent.collects = true) :
    agent.deeds (agent.stepCollector plan) =
      [⟨agent.hub, (agent.stepCollector plan).hub,
        completed? agent.collector.phase (agent.stepCollector plan).collector.phase⟩] :=
  if_pos turn

theorem Course.completions_stepCollector
    (step : agent.step? plan none = some (agent.stepCollector plan))
    (turn : agent.collects = true) :
    (course.step step).completions = course.completions ++
      (completed? agent.collector.phase (agent.stepCollector plan).collector.phase).toList := by
  rw [completions_step, deeds_stepCollector turn]
  cases completed? agent.collector.phase (agent.stepCollector plan).collector.phase <;> rfl

namespace Course.Keeps

/-- A step of the collector begins the next collection or completes the running one. -/
theorem stepCollector (keeps : course.Keeps table count) (planned : table.plan = plan.collection)
    (goesOn : agent.session.cancelled = false)
    (step : agent.step? plan none = some (agent.stepCollector plan))
    (turn : agent.collects = true) : ∃ later, (course.step step).Keeps table later := by
  have epoch : (agent.stepCollector plan).hub.epoch = table.epoch :=
    (Collector.epoch_step plan.collection agent.session.cancelled agent.hub
      agent.collector).trans keeps.epoch
  have next : agent.collector.step table.plan false agent.hub =
      ((agent.stepCollector plan).hub, (agent.stepCollector plan).collector) := by
    rw [planned, ← goesOn]
    rfl
  have deeds := @deeds_stepCollector plan agent turn
  have completions := @completions_stepCollector plan origin agent course step turn
  obtain ⟨nothing, stands⟩ | ⟨completes, onTime, stands⟩ :=
    keeps.stands.step keeps.epoch next
  · rw [nothing] at deeds completions
    refine ⟨count, epoch, ?_, List.forall_mem_append.mpr ⟨keeps.onTime, ?_⟩, stands⟩
    · rw [completions]
      exact (List.append_nil _).trans keeps.completions
    · rw [deeds]
      exact List.forall_mem_singleton.mpr fun collection absent => by cases absent
  · rw [completes] at deeds completions
    refine ⟨count + 1, epoch, ?_, List.forall_mem_append.mpr ⟨keeps.onTime, ?_⟩, stands⟩
    · rw [completions, keeps.completions, List.range_succ, List.map_append]
      rfl
    · rw [deeds]
      refine List.forall_mem_singleton.mpr fun collection completed => ?_
      obtain rfl := Option.some.inj completed
      exact onTime

/-- Without a deed of the collector, time passes, but not beyond what is due. -/
theorem pass {following : Agent} {later : Course plan origin following}
    (keeps : course.Keeps table count)
    (deeds : later.deeds = course.deeds) (collector : following.collector = agent.collector)
    (epoch : following.hub.epoch = agent.hub.epoch) (onward : agent.hub.now ≤ following.hub.now)
    (timely : ∀ moment ∈ agent.collector.dueAt? false agent.hub, following.hub.now ≤ moment) :
    later.Keeps table count := by
  refine ⟨epoch.trans keeps.epoch, ?_, ?_, ?_⟩
  · unfold Course.completions
    rw [deeds]
    exact keeps.completions
  · rw [deeds]
    exact keeps.onTime
  · rw [collector]
    exact keeps.stands.pass onward timely

end Course.Keeps

/-- A collector keeps to its timetable unless it is called off, whatever goes on beside it. -/
theorem Course.exists_keeps (planned : table.plan = plan.collection)
    (course : Course plan origin agent) (epoch : origin.hub.epoch = table.epoch)
    (stands : table.Stands 0 origin.hub.now origin.collector)
    (goesOn : agent.session.cancelled = false) : ∃ count, course.Keeps table count := by
  induction course with
  | start => exact ⟨0, epoch, rfl, List.forall_mem_nil _, stands⟩
  | @step agent next course step ih =>
      have before := goesOn_before step goesOn
      obtain ⟨count, keeps⟩ := ih before
      obtain ⟨turn, rfl, -⟩ | ⟨notTurn, rfl, first⟩ := step?_turn step
      · exact keeps.stepCollector planned before step turn
      · -- The deliverer is due first, and gets no further than to where it is due.
        have nothing : course.deeds ++ agent.deeds (agent.stepDeliverer plan) = course.deeds := by
          rw [Agent.deeds, if_neg (Bool.eq_false_iff.mp notTurn), List.append_nil]
        rw [before] at first
        obtain ⟨due, delivering, sooner⟩ := exists_lt_of_before first
        have onward := @onward_stepDeliverer plan agent due delivering
        refine ⟨count, keeps.pass nothing rfl onward.epoch onward.later
          fun moment collecting => ?_⟩
        have notPassed := keeps.stands.le_of_due moment collecting
        have notLater := sooner moment collecting
        have timely := onward.timely
        omega
  | @wait agent course moment rests ih =>
      have before : agent.session.cancelled = false := goesOn
      obtain ⟨count, keeps⟩ := ih before
      refine ⟨count, keeps.pass rfl rfl rfl (Nat.le_max_left _ _) fun due collecting => ?_⟩
      have notBefore := (not_before_of_step? rests).2
      rw [before, collecting] at notBefore
      exact Nat.max_le.mpr ⟨keeps.stands.le_of_due due collecting,
        Nat.not_lt.mp (of_decide_eq_false notBefore)⟩
  | @intervene agent course intervention ih =>
      have before : agent.session.cancelled = false := by
        cases intervention with
        | cancel => cases goesOn
        | _ => exact goesOn
      obtain ⟨count, keeps⟩ := ih before
      have onward := @onward_intervene agent 0 intervention
      have collector : (agent.intervene intervention).2.collector = agent.collector := by
        cases intervention <;> rfl
      refine ⟨count, keeps.pass rfl collector onward.epoch onward.later fun due collecting => ?_⟩
      have notPassed := keeps.stands.le_of_due due collecting
      have timely := onward.timely
      omega

end Keeping

end Agent

end NodeTelemetry
