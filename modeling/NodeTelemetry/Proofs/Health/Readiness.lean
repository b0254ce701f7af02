/-
# Readiness follows the runtime

Four components are judged, but only one of them can withdraw readiness. A collector, a
relay and a backlog are never judged worse than degraded; the runtime is judged unhealthy
when all its queries have failed. So the probes tell, at every moment, whether the
collection that was completed last got an answer from the runtime, whatever the relay does
and whatever else goes wrong.
-/

import NodeTelemetry.Probe.Router
import NodeTelemetry.Proofs.Collection.Completion
import NodeTelemetry.Proofs.Collection.Isolation

namespace NodeTelemetry

/-! ## Verdicts -/

namespace Health

theorem Status.worse_eq_unhealthy (first second : Status) :
    first.worse second = .unhealthy ↔ first = .unhealthy ∨ second = .unhealthy := by
  cases first <;> cases second <;> decide

/-- Some statuses are as bad as can be when one of them is. -/
theorem Status.worst_eq_unhealthy (statuses : List Status) :
    worst statuses = .unhealthy ↔ .unhealthy ∈ statuses := by
  have folded : ∀ status, statuses.foldl worse status = .unhealthy ↔
      status = .unhealthy ∨ .unhealthy ∈ statuses := by
    induction statuses with
    | nil => simp
    | cons first rest ih =>
        intro status
        rw [List.foldl_cons, ih, worse_eq_unhealthy, List.mem_cons, or_assoc, eq_comm (b := first)]
  exact (folded .healthy).trans (or_iff_right nofun)

namespace Verdict

theorem ofCollection_status_ne (faults : List Fault) :
    (ofCollection faults).status ≠ .unhealthy := by
  unfold ofCollection
  split <;> nofun

theorem ofBacklog_status_ne (length capacity : Nat) :
    (ofBacklog length capacity).status ≠ .unhealthy := by
  unfold ofBacklog
  split <;> nofun

theorem ofLink_status_ne (state : LinkState) (buffered : Nat) :
    ∀ verdict ∈ ofLink state buffered, verdict.status ≠ .unhealthy := by
  intro verdict judged
  cases state <;> cases judged <;> nofun

/-- The runtime is unhealthy when all its queries have failed. -/
theorem ofRuntime_status_eq (failed : List Source) :
    (ofRuntime failed).status = .unhealthy ↔ ∀ source ∈ Source.runtime, source ∈ failed := by
  have all : (Source.runtime.filter fun source => failed.contains source).length =
      Source.runtime.length ↔ ∀ source ∈ Source.runtime, source ∈ failed := by
    simp [List.length_filter_eq_length_iff]
  rw [← all]
  unfold ofRuntime
  generalize Source.runtime.filter (fun source => failed.contains source) = queries
  cases queries with
  | nil => exact iff_of_false nofun nofun
  | cons query rest =>
      simp only [List.isEmpty_cons, Bool.false_eq_true, if_false]
      split <;> simp_all

end Verdict

/-- A registry in which nothing is as bad as can be, unless the runtime is down. -/
structure Registry.Shows (registry : Registry) (down : Prop) : Prop where
  ready : registry.ready = true
  others : ∀ component, component ≠ .runtime → ∀ entry ∈ registry.find? component,
    entry.verdict.status ≠ .unhealthy
  runtime : (∃ entry ∈ registry.runtime, entry.verdict.status = .unhealthy) ↔ down

namespace Registry.Shows

variable {registry : Registry} {down other : Prop}

theorem of_iff (shows : registry.Shows down) (same : down ↔ other) : registry.Shows other :=
  ⟨shows.ready, shows.others, shows.runtime.trans same⟩

/-- The worst that is shown is what is shown of the runtime. -/
theorem status_eq (shows : registry.Shows down) : registry.status = .unhealthy ↔ down := by
  unfold status
  rw [Status.worst_eq_unhealthy, ← shows.runtime]
  constructor
  · intro listed
    obtain ⟨⟨component, entry⟩, judged, unhealthy⟩ := List.mem_map.mp listed
    obtain ⟨judgedComponent, -, judged⟩ := List.mem_filterMap.mp judged
    obtain ⟨judgedEntry, found, same⟩ := Option.map_eq_some_iff.mp judged
    obtain ⟨rfl, rfl⟩ := Prod.mk.inj same
    by_cases isRuntime : judgedComponent = .runtime
    · subst isRuntime
      exact ⟨judgedEntry, found, unhealthy⟩
    · exact absurd unhealthy (shows.others judgedComponent isRuntime judgedEntry found)
  · rintro ⟨entry, found, unhealthy⟩
    have listed : Component.runtime ∈ Component.all := by decide
    have judged := congrArg (Option.map fun entry => (Component.runtime, entry)) found
    exact List.mem_map.mpr
      ⟨(.runtime, entry), List.mem_filterMap.mpr ⟨.runtime, listed, judged⟩, unhealthy⟩

/-- A report on the link changes nothing in that. -/
theorem link (shows : registry.Shows down) (now : Int64) (state : LinkState) (buffered : Nat) :
    (registry.record now (.link state buffered)).Shows down := by
  simp only [record]
  cases judged : Verdict.ofLink state buffered with
  | none => exact shows
  | some verdict =>
      refine ⟨shows.ready, fun component other entry found => ?_, shows.runtime⟩
      cases component with
      | relay =>
          obtain rfl := Option.some.inj found
          exact Verdict.ofLink_status_ne state buffered verdict judged
      | _ => exact shows.others _ other entry found

theorem unreadyReason?_isNone (shows : registry.Shows down) :
    registry.unreadyReason?.isNone ↔ ¬down := by
  rw [← shows.status_eq]
  unfold unreadyReason?
  rw [shows.ready]
  by_cases unhealthy : registry.status = .unhealthy <;> simp [unhealthy]

end Registry.Shows

end Health

open Health (Registry)

namespace Probe

variable {registry : Registry} {metrics : Metrics} {method target : String} {down : Prop}

/-- Reading a resource gives a response with its status, also without the body. -/
theorem status_respond {resource : Resource} (found : resourceAt? (pathOf target) = some resource)
    (asked : method ∈ ["GET", "HEAD"]) :
    (respond registry metrics method target).status = (read registry metrics resource).status := by
  unfold respond
  rw [found]
  obtain rfl | rfl : method = "GET" ∨ method = "HEAD" := by simpa using asked
  · rfl
  · rfl

/-- Both probes tell whether the runtime is down. -/
theorem exists_works (shows : registry.Shows down) (asked : method ∈ ["GET", "HEAD"])
    (probed : target ∈ ["/readyz", "/healthz"]) :
    ∃ works, (works = true ↔ ¬down) ∧
      (respond registry metrics method target).status = statusOf works := by
  obtain rfl | rfl : target = "/readyz" ∨ target = "/healthz" := by simpa using probed
  · have found : resourceAt? (pathOf "/readyz") = some .readiness := by decide
    exact ⟨_, shows.unreadyReason?_isNone, status_respond found asked⟩
  · have found : resourceAt? (pathOf "/healthz") = some .health := by decide
    refine ⟨_, ?_, status_respond found asked⟩
    rw [decide_eq_true_iff, Ne, shows.status_eq]

end Probe

theorem Event.shows {event : Event} {registry : Registry} {down : Prop}
    (shows : registry.Shows down) (about : event.aboutLink = true) (now : Int64) :
    (event.reports.foldl (.record now) registry).Shows down := by
  cases event with
  | surveyed state waiting capacity => exact shows.link now state waiting
  | collected summary => cases about
  | reported report =>
      cases report with
      | link state buffered => exact shows.link now state buffered
      | _ => cases about
  | _ => exact shows

/-- Whatever delivery does, and whatever others do, changes nothing in what is shown of the
runtime. -/
theorem Hub.Onward.shows {moment : Nat} {before after : Hub} {down : Prop}
    (onward : Onward moment before after) (shows : before.stores.health.Shows down) :
    after.stores.health.Shows down := by
  obtain ⟨entries, hentries, about⟩ := onward.journal
  change (after.journal.registry after.epoch).Shows down
  change (before.journal.registry before.epoch).Shows down at shows
  rw [hentries, onward.epoch, Journal.registry, List.foldl_append, ← Journal.registry]
  clear hentries
  generalize before.journal.registry before.epoch = registry at shows
  induction entries generalizing registry with
  | nil => exact shows
  | cons entry later ih =>
      obtain ⟨aboutEntry, aboutLater⟩ := List.forall_mem_cons.mp about
      exact ih aboutLater _ (Event.shows shows aboutEntry _)

/-- After a collection the registry shows the runtime as down if all its queries failed. -/
theorem Stores.shows_collected {stores : Stores} {down : Prop}
    (shows : stores.health.Shows down) (findings : Collection.Findings) (elapsed : Nat)
    (second : Int64) :
    (stores.collected findings elapsed second).health.Shows
      (∀ source ∈ Source.runtime, source ∈ findings.faults.filterMap Fault.failedSource?) := by
  refine ⟨shows.ready, fun component other entry found => ?_, ?_⟩
  · cases component with
    | collector =>
        obtain rfl := Option.some.inj found
        exact Health.Verdict.ofCollection_status_ne findings.faults
    | backlog =>
        obtain rfl := Option.some.inj found
        exact Health.Verdict.ofBacklog_status_ne _ _
    | relay => exact shows.others .relay other entry found
    | runtime => exact absurd rfl other
  · rw [← Health.Verdict.ofRuntime_status_eq]
    constructor
    · rintro ⟨entry, found, unhealthy⟩
      obtain rfl := Option.some.inj found
      exact unhealthy
    · exact fun unhealthy => ⟨_, rfl, unhealthy⟩

namespace Collection

/-- A source is among those that failed when something is wrong with its answer. -/
theorem mem_failedSources (settings : Settings) (limit : Nat) (timestamp : Int64)
    (sources : Sources) (source : Source) :
    source ∈ (collect settings limit timestamp sources).faults.filterMap Fault.failedSource? ↔
      (failureOf? settings limit sources source).isSome := by
  rw [collect_faults, failedSources_eq _ fun fault => Inventory.isMiss_join, List.mem_filter]
  exact and_iff_right (by cases source <;> decide)

/-- What a running collection has found is what its sources have said. -/
def Plan.Genuine (plan : Plan) (phase : Phase) : Prop :=
  ∀ running, phase = .running running → ∃ timestamp,
    running.findings =
      collect plan.settings plan.limit timestamp (plan.sources running.index)

theorem Collector.genuine_step {plan : Plan} {collector : Collector}
    (genuine : plan.Genuine collector.phase) (cancelled : Bool) (hub : Hub) :
    plan.Genuine (collector.step plan cancelled hub).2.phase := by
  obtain ⟨ticker, begun, phase⟩ := collector
  cases phase with
  | stopped => exact genuine
  | running running => cases cancelled <;> exact fun running begun => by cases begun
  | idle =>
      cases cancelled with
      | true => exact fun running begun => by cases begun
      | false =>
          rintro running begins
          obtain rfl := Phase.running.inj begins
          exact ⟨_, rfl⟩

end Collection

namespace Agent

open Collection

variable {plan : NodeTelemetry.Plan} {origin agent next : Agent}

/-- Whether the runtime has answered a query of the latest collection that was completed. It
counts as having answered before the first one. -/
def Course.Answers (course : Course plan origin agent) : Prop :=
  ∀ latest ∈ course.completions.getLast?, ∃ source ∈ Source.runtime,
    failureOf? plan.collection.settings plan.collection.limit
      (plan.collection.sources latest.index) source = none

/-- A course in which the registry shows whether the runtime has answered. -/
structure Course.Tells (course : Course plan origin agent) : Prop where
  genuine : plan.collection.Genuine agent.collector.phase
  shows : agent.hub.stores.health.Shows ¬course.Answers

theorem Course.Tells.onward {following : Agent} {course : Course plan origin agent}
    {later : Course plan origin following} {moment : Nat} (tells : course.Tells)
    (completions : later.completions = course.completions)
    (collector : following.collector = agent.collector)
    (onward : Hub.Onward moment agent.hub following.hub) : later.Tells := by
  refine ⟨?_, ?_⟩
  · rw [collector]
    exact tells.genuine
  · unfold Course.Answers
    rw [completions]
    exact onward.shows tells.shows

theorem Course.Tells.stepCollector {course : Course plan origin agent} (tells : course.Tells)
    (step : agent.step? plan none = some (agent.stepCollector plan))
    (turn : agent.collects = true) : (course.step step).Tells := by
  refine ⟨Collector.genuine_step tells.genuine _ _, ?_⟩
  have leaves : Deed.Leaves ⟨agent.hub, (agent.stepCollector plan).hub,
      completed? agent.collector.phase (agent.stepCollector plan).collector.phase⟩ :=
    Collector.leaves_step plan.collection agent.session.cancelled agent.hub agent.collector
  have completions := @Course.completions_stepCollector plan origin agent course step turn
  unfold Deed.Leaves at leaves
  unfold Course.Answers
  rw [completions]
  cases completes : completed? agent.collector.phase
      (agent.stepCollector plan).collector.phase with
  | none =>
      rw [completes] at leaves
      simp only at leaves
      rw [leaves, Option.toList_none, List.append_nil]
      exact tells.shows
  | some latest =>
      rw [completes] at leaves
      simp only at leaves
      obtain ⟨timestamp, findings⟩ := tells.genuine latest (running_of_completed? completes)
      rw [leaves, Option.toList_some, List.getLast?_concat]
      refine (Stores.shows_collected tells.shows _ _ _).of_iff ?_
      rw [findings]
      simp only [mem_failedSources]
      simp [Option.isSome_iff_ne_none]

/-- As long as an agent goes on, in whatever way, the registry shows whether the runtime has
answered. -/
theorem Course.tells (course : Course plan origin agent)
    (idle : plan.collection.Genuine origin.collector.phase)
    (shows : origin.hub.stores.health.Shows False) : course.Tells := by
  induction course with
  | start =>
      have answers : (Course.start : Course plan origin origin).Answers :=
        fun latest absent => by cases absent
      exact ⟨idle, shows.of_iff (iff_of_false id (not_not.mpr answers))⟩
  | @step agent next course step ih =>
      obtain ⟨turn, rfl, -⟩ | ⟨notTurn, rfl, first⟩ := step?_turn step
      · exact ih.stepCollector step turn
      · obtain ⟨due, delivering, -⟩ := exists_lt_of_before first
        refine ih.onward ?_ rfl (onward_stepDeliverer delivering)
        rw [completions_step, Agent.deeds, if_neg (Bool.eq_false_iff.mp notTurn)]
        exact List.append_nil _
  | @wait agent course moment rests ih =>
      exact ih.onward rfl rfl ((Hub.Onward.refl agent.hub).waitUntil (Nat.le_refl moment))
  | @intervene agent course intervention ih =>
      refine ih.onward rfl ?_ (@onward_intervene agent 0 intervention)
      cases intervention <;> rfl

/-- An agent on any hub, whose components have just been registered and which has been
declared ready, with the intervals of its rounds. -/
def wired (hub : Hub) (backoff : Backoff) (collecting delivering : Option Nat) : Agent :=
  start { hub := (hub.note (.reported .registerAll)).note (.reported (.ready true)), backoff }
    collecting delivering

theorem shows_wired (hub : Hub) (backoff : Backoff) (collecting delivering : Option Nat) :
    (wired hub backoff collecting delivering).hub.stores.health.Shows False := by
  change ((hub.note (.reported .registerAll)).note (.reported (.ready true))).stores.health.Shows
    False
  rw [Hub.stores_note, Hub.stores_note]
  refine ⟨rfl, fun component _ entry found => ?_, ?_⟩
  · cases component <;> cases found <;> nofun
  · refine iff_of_false ?_ id
    rintro ⟨entry, found, unhealthy⟩
    cases found
    cases unhealthy

/-- The health registry of an agent. -/
def registry (agent : Agent) : Registry := agent.hub.journal.registry agent.hub.epoch

/-- The probes answer as the runtime does. -/
structure FollowsRuntime (course : Course plan origin agent) : Prop where
  readiness : agent.registry.readinessAnswer.ready = true ↔ course.Answers
  up : course.Answers → ∀ metrics, ∀ method ∈ ["GET", "HEAD"], ∀ path ∈ ["/readyz", "/healthz"],
    (Probe.respond agent.registry metrics method path).status = 200
  down : ¬course.Answers → ∀ metrics, ∀ method ∈ ["GET", "HEAD"],
    ∀ path ∈ ["/readyz", "/healthz"],
    (Probe.respond agent.registry metrics method path).status = 503

/-- At every moment of an agent the probes answer as the runtime did in the collection that
was completed last, whatever the relay and the other sources do and whoever intervenes. -/
theorem follows_runtime {hub : Hub} {backoff : Backoff} {collecting delivering : Option Nat}
    (course : Course plan (wired hub backoff collecting delivering) agent) :
    FollowsRuntime course := by
  have idle :
      plan.collection.Genuine (wired hub backoff collecting delivering).collector.phase := by
    cases collecting <;> exact fun running begun => by cases begun
  have tells := course.tells idle (shows_wired hub backoff collecting delivering)
  have shows : agent.registry.Shows ¬course.Answers := tells.shows
  have ready : agent.registry.unreadyReason?.isNone ↔ course.Answers :=
    shows.unreadyReason?_isNone.trans not_not
  refine ⟨ready, fun answers metrics method asked path probed => ?_,
    fun fails metrics method asked path probed => ?_⟩
  · obtain ⟨works, tells, status⟩ := Probe.exists_works shows asked probed
    rw [status, tells.mpr (not_not.mpr answers)]
    rfl
  · obtain ⟨works, tells, status⟩ := Probe.exists_works shows asked probed
    rw [status, Bool.eq_false_iff.mpr fun works => tells.mp works fails]
    rfl

/-- Of the sources, the runtime lists its sandboxes in every second collection, and nothing
else works; the relay refuses every request. -/
def faltering : NodeTelemetry.Plan where
  collection :=
    { limit := nanosPerSecond
      sources := fun index query =>
        match query with
        | .host _ => { result := .error [] }
        | .sandboxes _ => { after := if index % 2 = 0 then some 0 else none, result := .ok [] }
        | .sandboxStats => { after := none, result := .ok [] }
        | .containers _ => { result := .error [] }
        | .containerStats => { result := .error [] } }
  delivery := { peer := { opening := fun _ => { accepts := false }, sending := fun _ _ => {} } }

/-- What the readiness probe says after so many seconds, with a round every five seconds. -/
def falteringStatus (seconds : Nat) : Nat :=
  let interval := some (5 * nanosPerSecond)
  let agent := (wired (.start 0 1) .standard interval interval).runUntil faltering 50
    (seconds * nanosPerSecond)
  (Probe.respond agent.registry {} "GET" "/readyz").status

example : [2, 7, 12].map falteringStatus = [200, 503, 200] := by decide

end Agent

end NodeTelemetry
