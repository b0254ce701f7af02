/-
# Calling collecting off

A collector that is called off at some moment stops at that moment, before anything else is
done, and leaves nothing more behind: not if it waits for the next round, not if a collection
is running, and not if a collection would have ended at that very moment. What it has left is
due to the collections that have ended before, one after the other.
-/

import NodeTelemetry.Proofs.Collection.Completion
import NodeTelemetry.Proofs.Collection.Isolation
import NodeTelemetry.Proofs.Delivery.CallingOff

namespace NodeTelemetry

open Collection

namespace Collection

namespace Collector

/-- An upper bound for what a collector still does before a moment. -/
def rank (moment : Nat) (collector : Collector) : Nat :=
  2 * (moment - collector.ticker.due) + if collector.phase = .idle then 0 else 1

/-- Everything that a collector does before a moment brings it closer to it, since each round
is due later than the one before. -/
theorem rank_step (plan : Plan) {hub : Hub} {collector : Collector} {due moment : Nat}
    (positive : 0 < collector.ticker.interval)
    (collecting : due ∈ collector.dueAt? false hub) (early : due < moment) :
    (collector.step plan false hub).2.rank moment < collector.rank moment := by
  obtain ⟨ticker, begun, phase⟩ := collector
  cases phase with
  | stopped => cases collecting
  | idle =>
      obtain rfl : max hub.now ticker.due = due := Option.some.inj collecting
      have later := Delivery.Deliverer.due_take ticker (max hub.now ticker.due)
      change 2 * (moment - (ticker.take (max hub.now ticker.due)).due) + 1 <
        2 * (moment - ticker.due) + 0
      change 0 < ticker.interval at positive
      omega
  | running collection => exact Nat.lt_succ_self _

/-- A collector that is called off has to stop at once. -/
theorem dueAt?_cancelled {collector : Collector} (running : collector.phase ≠ .stopped)
    (hub : Hub) : collector.dueAt? true hub = some hub.now := by
  unfold dueAt?
  cases phase : collector.phase with
  | stopped => exact absurd phase running
  | _ => rfl

theorem interval_step (plan : Plan) (hub : Hub) (collector : Collector) :
    (collector.step plan false hub).2.ticker.interval = collector.ticker.interval := by
  obtain ⟨ticker, begun, phase⟩ := collector
  cases phase <;> rfl

end Collector

end Collection

namespace Agent

variable {plan : NodeTelemetry.Plan} {origin agent next : Agent} {moment : Nat}

/-- What is completed before a moment ends before it. -/
theorem Course.due_lt_of_completed (course : Course plan origin agent)
    (before : course.Before moment) (goesOn : agent.session.cancelled = false) :
    ∀ collection ∈ course.completions, collection.due < moment := by
  induction course with
  | start => exact List.forall_mem_nil _
  | @step agent next course step ih =>
      obtain ⟨earlier, sooner⟩ := before
      have uncancelled := goesOn_before step goesOn
      rw [Course.completions_step]
      refine List.forall_mem_append.mpr ⟨ih earlier uncancelled, fun collection completed => ?_⟩
      obtain ⟨deed, done, completes⟩ := List.mem_filterMap.mp completed
      obtain ⟨-, due, rfl⟩ := eq_of_mem_deeds sooner done
      unfold Collector.dueAt? at due
      rw [running_of_completed? completes, uncancelled] at due
      exact of_decide_eq_true due
  | wait course moment rests ih => exact ih before goesOn
  | intervene course intervention ih =>
      cases intervention with
      | cancel => cases goesOn
      | _ => exact ih before goesOn

/-- A collector that was called off completes nothing any more. -/
theorem Course.completes_nothing (course : Course plan origin agent)
    (cancelled : origin.session.cancelled = true) :
    agent.session.cancelled = true ∧ ∀ deed ∈ course.deeds, deed.completes = none := by
  induction course with
  | start => exact ⟨cancelled, List.forall_mem_nil _⟩
  | @step agent next course step ih =>
      obtain ⟨stillCancelled, nothing⟩ := ih
      refine ⟨cancelled_step step stillCancelled, List.forall_mem_append.mpr ⟨nothing, ?_⟩⟩
      intro deed done
      obtain ⟨-, -, rfl⟩ := eq_of_mem_deeds step done
      have stopped := (@stepCollector_cancelled plan agent stillCancelled).1
      change completed? _ (agent.stepCollector plan).collector.phase = none
      rw [stopped]
      exact completed?_stopped _
  | wait course moment rests ih => exact ih
  | intervene course intervention ih =>
      refine ⟨?_, ih.2⟩
      cases intervention with
      | cancel => rfl
      | _ => exact ih.1

/-- A collector that is called off is the first to react: it stops, at once and without a
trace. -/
structure StopsHere (plan : NodeTelemetry.Plan) (agent next : Agent) : Prop where
  first : agent.step? plan none = some next
  stopped : next.collector.phase = .stopped
  now : next.hub.now = agent.hub.now
  stores : next.hub.stores = agent.hub.stores

/-- The deliverer is not to go on before now. -/
theorem Punctual.not_before (punctual : agent.Punctual) :
    before (agent.deliverer.dueAt? agent.session) (some agent.hub.now) = false := by
  cases delivering : agent.deliverer.dueAt? agent.session with
  | none => rfl
  | some moment =>
      have onTime : agent.hub.now ≤ moment := punctual moment delivering
      exact decide_eq_false (Nat.not_lt.mpr onTime)

theorem stopsHere (punctual : agent.Punctual) (running : agent.collector.phase ≠ .stopped) :
    StopsHere plan agent.cancel (agent.cancel.stepCollector plan) := by
  obtain ⟨stopped, noted⟩ := @stepCollector_cancelled plan agent.cancel rfl
  have due : agent.cancel.collector.dueAt? agent.cancel.session.cancelled agent.cancel.hub =
      some agent.cancel.hub.now :=
    Collector.dueAt?_cancelled running agent.hub
  have notFirst : before (agent.cancel.deliverer.dueAt? agent.cancel.session)
      (some agent.cancel.hub.now) = false :=
    (punctual.intervene .cancel).not_before
  have first : agent.cancel.step? plan none = some (agent.cancel.stepCollector plan) := by
    unfold step?
    simp only [due, notFirst]
    rfl
  refine ⟨first, stopped, ?_, ?_⟩
  · change (agent.cancel.stepCollector plan).session.now = agent.cancel.session.now
    obtain same | ⟨index, discarded⟩ := noted
    · rw [same]
    · rw [discarded]
      rfl
  · change (agent.cancel.stepCollector plan).session.hub.stores = agent.cancel.session.hub.stores
    obtain same | ⟨index, discarded⟩ := noted
    · rw [same]
    · rw [discarded]
      exact agent.cancel.session.hub.stores_note_of_unseen rfl rfl rfl

/-! ### Collectors on their own -/

/-- A collector without a deliverer beside it that was not called off before a moment. -/
structure Lone (moment : Nat) (agent : Agent) : Prop where
  alone : agent.deliverer.phase = .stopped
  goesOn : agent.session.cancelled = false
  positive : 0 < agent.collector.ticker.interval
  ahead : agent.hub.now ≤ moment

theorem Lone.step (lone : agent.Lone moment) (step : agent.step? plan (some moment) = some next) :
    next.Lone moment ∧ next.collector.rank moment < agent.collector.rank moment := by
  have never : agent.deliverer.dueAt? agent.session = none := by
    unfold Delivery.Deliverer.dueAt?
    rw [lone.alone]
  obtain ⟨-, rfl, sooner⟩ | ⟨-, -, first⟩ := step?_turn step
  · obtain ⟨due, collecting, onTime⟩ := exists_lt_of_before sooner
    have early := onTime moment rfl
    have timely := @now_stepCollector plan agent due collecting
    have stepped : (agent.stepCollector plan).collector =
        (agent.collector.step plan.collection false agent.hub).2 := by
      rw [← lone.goesOn]
      rfl
    rw [lone.goesOn] at collecting
    refine ⟨⟨lone.alone, lone.goesOn, ?_, ?_⟩, ?_⟩
    · rw [stepped, Collector.interval_step]
      exact lone.positive
    · have ahead := lone.ahead
      omega
    · rw [stepped]
      exact Collector.rank_step plan.collection lone.positive collecting early
  · rw [never] at first
    cases first

/-- A lone collector gets to every moment, if it has steps enough. -/
theorem Lone.exists_advance (lone : agent.Lone moment) (course : Course plan origin agent)
    (before : course.Before moment) {steps : Nat}
    (enough : agent.collector.rank moment ≤ steps) :
    ∃ later : Course plan origin (agent.advance plan (some moment) steps),
      later.Before moment ∧ (agent.advance plan (some moment) steps).Lone moment ∧
        (agent.advance plan (some moment) steps).step? plan (some moment) = none := by
  have rests : (agent.advance plan (some moment) steps).step? plan (some moment) = none :=
    advance_rests Lone.step lone enough
  have gets : (∃ later : Course plan origin (agent.advance plan (some moment) steps),
      later.Before moment) ∧ (agent.advance plan (some moment) steps).Lone moment := by
    refine advance_keeps (motive := fun later =>
      (∃ course : Course plan origin later, course.Before moment) ∧ later.Lone moment)
      ?_ ⟨⟨course, before⟩, lone⟩ steps
    rintro agent next ⟨⟨course, before⟩, lone⟩ goesOn
    exact ⟨⟨course.step (step?_none_of_step? goesOn), before, goesOn⟩, (lone.step goesOn).1⟩
  obtain ⟨⟨later, stillBefore⟩, stillLone⟩ := gets
  exact ⟨later, stillBefore, stillLone, rests⟩

theorem exists_until {hub : Hub} {backoff : Backoff} {interval : Nat}
    (positive : 0 < interval) (ahead : hub.now ≤ moment) {steps : Nat}
    (enough : 2 * (moment - hub.now) ≤ steps) :
    ∃ course : Course plan (start { hub, backoff } (some interval) none)
        ((start { hub, backoff } (some interval) none).runUntil plan steps moment),
      course.Until moment := by
  have lone : (start { hub, backoff } (some interval) none).Lone moment :=
    ⟨rfl, rfl, positive, ahead⟩
  obtain ⟨course, before, stillLone, rests⟩ :=
    lone.exists_advance .start Course.before_start enough
  exact ⟨course.wait moment rests, before, Nat.max_eq_right stillLone.ahead, stillLone.goesOn⟩

/-! ### Up to a moment and no further -/

/-- What a collector comes to that is called off at a moment. -/
structure CompletesUntil (table : Timetable) (moment : Nat) (course : Course plan origin agent) :
    Prop where
  /-- It has completed the collections that end before that moment, each of them once, in the
  order in which they began, and no others. -/
  completions : ∃ count, (∀ index, index < count ↔ (table.collection index).due < moment) ∧
    course.completions = (List.range count).map table.collection
  /-- Each of them was completed when it ended, and has left what it leaves. Nothing else that
  the collector has done has left anything. -/
  deeds : ∀ deed ∈ course.deeds, deed.Leaves ∧
    ∀ collection ∈ deed.completes, deed.after.now = collection.due
  /-- When it is called off, it stops before anything else is done. -/
  stops : ∃ next, StopsHere plan agent.cancel next
  /-- Whatever goes on then, it completes nothing more and leaves nothing more. -/
  silent : ∀ {final : Agent} (later : Course plan agent.cancel final),
    later.completions = [] ∧ ∀ deed ∈ later.deeds, deed.after.stores = deed.before.stores

/-- Sources that answer after a third of a second, and a relay that never does. -/
def leisurely : NodeTelemetry.Plan where
  collection :=
    { limit := nanosPerSecond
      sources := fun _ query => { steadySources query with after := some (nanosPerSecond / 3) } }
  delivery := { peer := { opening := fun _ => { after := none }, sending := fun _ _ => {} } }

/-- The moment at which the second of their collections ends. -/
def justReady : Nat := nanosPerSecond + nanosPerSecond / 3

example : ((leisurely.collection.timetable nanosPerSecond (.start 0 1)).collection 1).due =
    justReady := by
  decide

end Agent

end NodeTelemetry
