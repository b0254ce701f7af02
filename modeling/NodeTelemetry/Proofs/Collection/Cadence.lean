/-
# The cadence of collections

Collections are an interval apart. As long as no source is waited for beyond an interval,
each collection begins exactly when its turn comes, whatever the sources do. If sources may
take longer, a collection can begin late, but never early; and after a late one the others
are put off rather than crowded together, so that in no span of time there are more of them
than its intervals and the tolerance of the ticker allow.
-/

import NodeTelemetry.Proofs.Collection.Cancellation
import NodeTelemetry.Proofs.Collection.Gathering

namespace NodeTelemetry

/-! ## Timetables -/

namespace Collection.Timetable

variable (table : Timetable)

theorem interval_gap (index : Nat) : (table.gap index).ticker.interval = table.interval := by
  induction index with
  | zero => rfl
  | succ index ih => exact ih

/-- The ticker takes a collection that begins within its tolerance to be on time. -/
theorem due_gap_succ (index : Nat) :
    (table.gap (index + 1)).ticker.due =
      (if (table.gap index).ticker.due + Ticker.tolerance < (table.collection index).since then
        (table.collection index).since
      else (table.gap index).ticker.due) + table.interval :=
  congrArg (_ + ·) (table.interval_gap index)

theorem due_le_since_self (index : Nat) :
    (table.gap index).ticker.due ≤ (table.collection index).since :=
  Nat.le_max_right _ _

/-- Rounds are due at least an interval apart. -/
theorem due_add_interval_le (index : Nat) :
    (table.gap index).ticker.due + table.interval ≤ (table.gap (index + 1)).ticker.due := by
  have due := table.due_gap_succ index
  have begins := table.due_le_since_self index
  split at due <;> omega

theorem monotone_since : Monotone fun index => (table.collection index).since :=
  monotone_nat_of_le_succ fun index =>
    Nat.le_trans (table.since_le_due index) (table.due_le_since index)

/-- So much of an interval is left between the beginning of a collection and the next round. -/
theorem since_add_interval_le (index : Nat) :
    (table.collection index).since + table.interval ≤
      (table.gap (index + 1)).ticker.due + Ticker.tolerance := by
  have due := table.due_gap_succ index
  split at due <;> omega

theorem due_add_mul_le (index rounds : Nat) :
    (table.gap index).ticker.due + rounds * table.interval ≤
      (table.gap (index + rounds)).ticker.due := by
  induction rounds with
  | zero => simp
  | succ rounds ih =>
      have apart := table.due_add_interval_le (index + rounds)
      rw [Nat.succ_mul, ← Nat.add_assoc]
      exact Nat.le_trans (Nat.add_le_add_right ih _) apart

/-- A collection does not begin before its turn. -/
theorem start_add_mul_le (index : Nat) :
    table.start + index * table.interval ≤ (table.collection index).since := by
  have due := table.due_add_mul_le 0 index
  rw [Nat.zero_add] at due
  exact Nat.le_trans due (table.due_le_since_self index)

/-- Collections that follow each other are as many intervals apart, but for the tolerance. -/
theorem since_add_mul_le (index rounds : Nat) :
    (table.collection index).since + rounds * table.interval ≤
      (table.collection (index + rounds)).since + Ticker.tolerance := by
  cases rounds with
  | zero => simp
  | succ rounds =>
      have first := table.since_add_interval_le index
      have others := table.due_add_mul_le (index + 1) rounds
      have begins := table.due_le_since_self (index + 1 + rounds)
      have same : index + (rounds + 1) = index + 1 + rounds := by omega
      rw [same, Nat.succ_mul]
      omega

/-- If no source is waited for beyond an interval, a collection begins when its turn comes:
it is over by the time the next one is due, which is therefore never late. -/
theorem since_eq (prompt : table.plan.limit ≤ table.interval) (index : Nat) :
    (table.collection index).since = table.start + index * table.interval := by
  have onTime : (table.gap index).free ≤ table.start + index * table.interval ∧
      (table.gap index).ticker.due = table.start + index * table.interval := by
    induction index with
    | zero => simp [gap, Ticker.start]
    | succ index ih =>
        obtain ⟨free, due⟩ := ih
        have begins : (table.collection index).since = table.start + index * table.interval :=
          due ▸ Nat.max_eq_right (due ▸ free)
        have takes : table.takes index ≤ table.interval :=
          Nat.le_trans (elapsed_le_limit _ _ _) prompt
        have next := table.due_gap_succ index
        rw [begins, due, if_neg (by omega)] at next
        rw [Nat.succ_mul, ← Nat.add_assoc]
        refine ⟨?_, next⟩
        change (table.collection index).since + table.takes index ≤ _
        rw [begins]
        exact Nat.add_le_add_left takes _
  obtain ⟨free, due⟩ := onTime
  exact due ▸ Nat.max_eq_right (due ▸ free)

/-- Of numbers that lie next to each other there are no more than places. -/
theorem length_filter_range_le {chosen : Nat → Bool} {count places : Nat} (first : Nat)
    (near : ∀ index, chosen index = true → first ≤ index ∧ index < first + places) :
    ((List.range count).filter chosen).length ≤ places := by
  have nodup : ((List.range count).filter chosen).Nodup := List.nodup_range.filter chosen
  have within : (List.range count).filter chosen ⊆ List.range' first places := fun index listed =>
    List.mem_range'_1.mpr (near index (List.mem_filter.mp listed).2)
  exact (nodup.subperm within).length_le.trans (Nat.le_of_eq List.length_range')

/-- No more collections have begun by some moment than there were turns. -/
theorem length_until_le (positive : 0 < table.interval) (count time : Nat) :
    ((List.range count).filter fun index =>
        (table.collection index).since ≤ table.start + time).length ≤
      time / table.interval + 1 := by
  refine length_filter_range_le 0 fun index begun => ⟨Nat.zero_le _, ?_⟩
  have begun : (table.collection index).since ≤ table.start + time := of_decide_eq_true begun
  have turn := table.start_add_mul_le index
  rw [Nat.zero_add, Nat.lt_succ_iff, Nat.le_div_iff_mul_le positive]
  omega

/-- In no span of time more collections begin than fit in it, with the tolerance, at
intervals: the first of them leaves room for no others. -/
theorem length_within_le (positive : 0 < table.interval) (count first last : Nat) :
    ((List.range count).filter fun index =>
        first ≤ (table.collection index).since ∧ (table.collection index).since ≤ last).length ≤
      (last - first + Ticker.tolerance) / table.interval + 1 := by
  let within (index : Nat) : Prop :=
    first ≤ (table.collection index).since ∧ (table.collection index).since ≤ last
  by_cases some : ∃ index, within index
  · have earliest := Nat.find_spec some
    refine length_filter_range_le (Nat.find some) fun index chosen => ?_
    have chosen : within index := of_decide_eq_true chosen
    have atLeast := Nat.find_min' some chosen
    obtain ⟨rounds, later⟩ := Nat.exists_eq_add_of_le atLeast
    have apart := table.since_add_mul_le (Nat.find some) rounds
    rw [← later] at apart
    have reach : rounds ≤ (last - first + Ticker.tolerance) / table.interval := by
      have begun := earliest.1
      have notOver := chosen.2
      rw [Nat.le_div_iff_mul_le positive]
      omega
    omega
  · have none : (List.range count).filter (fun index => within index) = [] :=
      List.filter_eq_nil_iff.mpr fun index _ chosen => some ⟨index, of_decide_eq_true chosen⟩
    rw [none]
    exact Nat.zero_le _

/-- A collector between two rounds begins the next collection when the timetable says so. -/
theorem Stands.since_eq_of_idle {table : Timetable} {count now : Nat} {collector : Collector}
    (stands : table.Stands count now collector) (idle : collector.phase = .idle) :
    max now collector.ticker.due = (table.collection collector.begun).since := by
  cases stands with
  | idle free soon =>
      have begins : (table.gap count).begins =
          max (table.gap count).free (table.gap count).ticker.due := rfl
      change max now (table.gap count).ticker.due = (table.gap count).begins
      omega
  | running begun soon => cases idle

end Collection.Timetable

/-! ## Collectors -/

/-- The collections that begin according to a journal, each with the moment at which it
does. -/
def Journal.beginnings (journal : Journal) : List (Nat × Nat) :=
  journal.filterMap fun
    | (nanos, .collecting index) => some (index, nanos)
    | _ => none

/-- The collections that a deed begins. -/
def Deed.beginnings (deed : Deed) : List (Nat × Nat) :=
  deed.after.journal.beginnings.drop deed.before.journal.beginnings.length

namespace Hub

/-- Only that a collection begins counts as a beginning. -/
theorem beginnings_note (hub : Hub) (event : Event)
    (other : ∀ index, event ≠ .collecting index) :
    (hub.note event).journal.beginnings = hub.journal.beginnings := by
  change Journal.beginnings (hub.journal ++ [(hub.now, event)]) = _
  unfold Journal.beginnings
  rw [List.filterMap_append]
  cases event with
  | collecting index => exact absurd rfl (other index)
  | _ => exact List.append_nil _

theorem beginnings_collecting (hub : Hub) (index : Nat) :
    (hub.note (.collecting index)).journal.beginnings =
      hub.journal.beginnings ++ [(index, hub.now)] :=
  List.filterMap_append

theorem beginnings_faulted (faults : List Fault) (hub : Hub) :
    (faults.foldl (fun hub fault => hub.note (.faulted fault)) hub).journal.beginnings =
      hub.journal.beginnings := by
  induction faults generalizing hub with
  | nil => rfl
  | cons fault later ih => exact (ih _).trans (hub.beginnings_note (.faulted fault) nofun)

theorem beginnings_append (hub : Hub) (snapshot : Snapshot) :
    (hub.append (.arrived snapshot) snapshot).journal.beginnings = hub.journal.beginnings := by
  have arrived := hub.beginnings_note (.arrived snapshot) nofun
  unfold append
  obtain ⟨evicted, backlog⟩ := hub.backlog.add snapshot
  cases evicted with
  | none => exact arrived
  | some lost => exact (beginnings_note _ (.dropped lost .overwritten) nofun).trans arrived

theorem beginnings_record (findings : Collection.Findings) (elapsed : Nat) (hub : Hub) :
    (Collection.record findings elapsed hub).journal.beginnings = hub.journal.beginnings := by
  unfold Collection.record
  exact (beginnings_note _ (.collected _) nofun).trans
    ((beginnings_append _ _).trans (beginnings_faulted findings.faults hub))

end Hub

/-- A collector that is idle may begin a collection; else nothing begins. -/
theorem Collection.Collector.beginnings_step (plan : Collection.Plan) (cancelled : Bool)
    (hub : Hub) (collector : Collector) :
    ((collector.step plan cancelled hub).2.begun = collector.begun ∧
      (collector.step plan cancelled hub).1.journal.beginnings = hub.journal.beginnings) ∨
    cancelled = false ∧ collector.phase = .idle ∧
      (collector.step plan cancelled hub).2.begun = collector.begun + 1 ∧
      (collector.step plan cancelled hub).1.journal.beginnings = hub.journal.beginnings ++
        [(collector.begun, max hub.now collector.ticker.due)] := by
  obtain ⟨ticker, begun, phase⟩ := collector
  cases phase with
  | stopped => exact .inl ⟨rfl, rfl⟩
  | idle =>
      cases cancelled with
      | true => exact .inl ⟨rfl, rfl⟩
      | false => exact .inr ⟨rfl, rfl, rfl, (hub.waitUntil ticker.due).beginnings_collecting begun⟩
  | running collection =>
      cases cancelled with
      | true => exact .inl ⟨rfl, hub.beginnings_note (.discarded collection.index) nofun⟩
      | false => exact .inl ⟨rfl, (hub.waitUntil collection.due).beginnings_record _ _⟩

namespace Agent

open Collection

variable {plan : NodeTelemetry.Plan} {origin agent next : Agent} {table : Timetable}

/-- The collections that begin in a course, each with the moment at which it does. -/
def Course.beginnings (course : Course plan origin agent) : List (Nat × Nat) :=
  course.deeds.flatMap Deed.beginnings

theorem Course.beginnings_stepCollector {course : Course plan origin agent}
    (step : agent.step? plan none = some (agent.stepCollector plan))
    (turn : agent.collects = true) {begun : List (Nat × Nat)}
    (begins : (agent.stepCollector plan).hub.journal.beginnings =
      agent.hub.journal.beginnings ++ begun) :
    (course.step step).beginnings = course.beginnings ++ begun := by
  have deed : Deed.beginnings ⟨agent.hub, (agent.stepCollector plan).hub,
      completed? agent.collector.phase (agent.stepCollector plan).collector.phase⟩ = begun := by
    unfold Deed.beginnings
    rw [begins, List.drop_left]
  unfold Course.beginnings
  change (course.deeds ++ agent.deeds (agent.stepCollector plan)).flatMap _ = _
  rw [deeds_stepCollector turn, List.flatMap_append, List.flatMap_singleton, deed]

/-- What has begun is what the timetable says, each collection at its time, also when the
collector has been called off. -/
theorem Course.beginnings_eq (planned : table.plan = plan.collection)
    (course : Course plan origin agent) (epoch : origin.hub.epoch = table.epoch)
    (stands : table.Stands 0 origin.hub.now origin.collector)
    (fresh : origin.collector.begun = 0) :
    course.beginnings = (List.range agent.collector.begun).map fun index =>
      (index, (table.collection index).since) := by
  induction course with
  | start =>
      rw [fresh]
      rfl
  | @step agent next course step ih =>
      obtain ⟨turn, rfl, -⟩ | ⟨notTurn, rfl, -⟩ := step?_turn step
      · have stepped := Collector.beginnings_step plan.collection agent.session.cancelled agent.hub
          agent.collector
        obtain ⟨same, nothing⟩ | ⟨goesOn, idle, more, begins⟩ := stepped
        · have begun : (agent.stepCollector plan).collector.begun = agent.collector.begun := same
          rw [Course.beginnings_stepCollector step turn (nothing.trans (List.append_nil _).symm),
            List.append_nil, ih, begun]
        · have begun : (agent.stepCollector plan).collector.begun = agent.collector.begun + 1 :=
            more
          obtain ⟨count, keeps⟩ := course.exists_keeps planned epoch stands goesOn
          have onTime : max agent.hub.now agent.collector.ticker.due =
              (table.collection agent.collector.begun).since :=
            keeps.stands.since_eq_of_idle idle
          rw [Course.beginnings_stepCollector step turn begins, ih, begun, List.range_succ,
            List.map_append, onTime]
          rfl
      · have nothing : (course.step step).deeds = course.deeds := by
          change course.deeds ++ agent.deeds (agent.stepDeliverer plan) = course.deeds
          rw [Agent.deeds, if_neg (Bool.eq_false_iff.mp notTurn), List.append_nil]
        unfold Course.beginnings
        rw [nothing]
        exact ih
  | wait course moment rests ih => exact ih
  | intervene course intervention ih => cases intervention <;> exact ih

/-- Every collection whose time according to the timetable has passed has begun, unless
collecting was called off. -/
theorem Course.lt_begun (planned : table.plan = plan.collection)
    (course : Course plan origin agent) (epoch : origin.hub.epoch = table.epoch)
    (stands : table.Stands 0 origin.hub.now origin.collector)
    (goesOn : agent.session.cancelled = false) {index : Nat}
    (passed : (table.collection index).since < agent.hub.now) :
    index < agent.collector.begun := by
  obtain ⟨count, keeps⟩ := course.exists_keeps planned epoch stands goesOn
  have begun : count ≤ agent.collector.begun ∧
      agent.hub.now ≤ (table.collection agent.collector.begun).since := by
    have standing := keeps.stands
    generalize agent.hub.now = now at standing
    generalize agent.collector = collector at standing
    cases standing with
    | idle free soon => exact ⟨Nat.le_refl _, soon⟩
    | running begun soon =>
        exact ⟨Nat.le_succ _, Nat.le_trans soon (table.due_le_since count)⟩
  refine Nat.lt_of_not_le fun later => ?_
  exact absurd (begun.2.trans (table.monotone_since later)) (Nat.not_le.mpr passed)

/-- What the beginnings of collections keep to in the course of an agent. Each beginning is a
number and a moment. -/
structure KeepsCadence (table : Timetable) (course : Course plan origin agent) : Prop where
  /-- Collections begin one after the other. -/
  inOrder : course.beginnings.map (·.1) = List.range course.beginnings.length
  /-- Each begins when its turn comes if no source is waited for beyond an interval, -/
  punctual : table.plan.limit ≤ table.interval → ∀ beginning ∈ course.beginnings,
    beginning.2 = table.start + beginning.1 * table.interval
  /-- and each whose turn was before now has begun, unless collecting was called off. -/
  complete : table.plan.limit ≤ table.interval → agent.session.cancelled = false →
    ∀ index, table.start + index * table.interval < agent.hub.now →
      (index, table.start + index * table.interval) ∈ course.beginnings
  /-- However long sources are waited for, none begins before its turn; -/
  notEarly : ∀ beginning ∈ course.beginnings,
    table.start + beginning.1 * table.interval ≤ beginning.2
  /-- so by any time no more have begun than there were turns, -/
  bounded : ∀ time, (course.beginnings.filter (·.2 ≤ table.start + time)).length ≤
    time / table.interval + 1
  /-- and in no span of time more of them begin than fit in it, with the tolerance of the
  ticker, at intervals. -/
  noBurst : ∀ first last,
    (course.beginnings.filter fun beginning =>
        first ≤ beginning.2 ∧ beginning.2 ≤ last).length ≤
      (last - first + Ticker.tolerance) / table.interval + 1

/-- The collections of a collector on any hub, with or without a deliverer beside it and
whoever intervenes, keep their cadence, whatever its sources do. On its own a collector gets
to every moment. -/
theorem keeps_cadence {hub : Hub} {backoff : Backoff} {interval : Nat}
    (positive : 0 < interval) :
    (∀ moment, hub.now ≤ moment →
      ∃ course : Course plan (start { hub, backoff } (some interval) none)
          ((start { hub, backoff } (some interval) none).runUntil plan
            (2 * (moment - hub.now)) moment),
        course.Until moment) ∧
    ∀ {delivering : Option Nat} {agent : Agent}
      (course : Course plan (start { hub, backoff } (some interval) delivering) agent),
      KeepsCadence (plan.collection.timetable interval hub) course := by
  refine ⟨fun moment ahead => exists_until positive ahead (Nat.le_refl _), ?_⟩
  intro delivering agent course
  let table := plan.collection.timetable interval hub
  have begun : course.beginnings = (List.range agent.collector.begun).map fun index =>
      (index, (table.collection index).since) :=
    course.beginnings_eq rfl rfl table.stands_start rfl
  refine ⟨?_, fun prompt => ?_, fun prompt goesOn index passed => ?_, ?_, fun time => ?_,
    fun first last => ?_⟩
  · rw [begun, List.length_map, List.length_range, List.map_map]
    exact List.map_id _
  · rw [begun]
    exact List.forall_mem_map.mpr fun index _ => table.since_eq prompt index
  · have onTime := table.since_eq prompt index
    rw [begun, ← onTime]
    refine List.mem_map_of_mem (List.mem_range.mpr ?_)
    exact course.lt_begun rfl rfl table.stands_start goesOn (onTime ▸ passed)
  · rw [begun]
    exact List.forall_mem_map.mpr fun index _ => table.start_add_mul_le index
  · rw [begun, List.filter_map, List.length_map]
    exact table.length_until_le positive agent.collector.begun time
  · rw [begun, List.filter_map, List.length_map]
    exact table.length_within_le positive agent.collector.begun first last

/-- Sources that never answer and are waited for two and a half seconds, and a relay that
never does either. -/
def unresponsive : NodeTelemetry.Plan where
  collection :=
    { limit := 2 * nanosPerSecond + nanosPerSecond / 2
      sources := fun _ query => { steadySources query with after := none } }
  delivery := { peer := { opening := fun _ => { after := none }, sending := fun _ _ => {} } }

/-- A collection takes much longer than the second after which the next one should begin. -/
theorem keeps_cadence_unresponsive :
    0 < nanosPerSecond ∧
      (∀ moment, (Hub.start 0 1).now ≤ moment →
        ∃ course : Course unresponsive (start { hub := .start 0 1 } (some nanosPerSecond) none)
            ((start { hub := .start 0 1 } (some nanosPerSecond) none).runUntil unresponsive
              (2 * (moment - (Hub.start 0 1).now)) moment),
          course.Until moment) ∧
      ∀ {delivering : Option Nat} {agent : Agent}
        (course : Course unresponsive
          (start { hub := .start 0 1 } (some nanosPerSecond) delivering) agent),
        KeepsCadence (unresponsive.collection.timetable nanosPerSecond (.start 0 1)) course :=
  have positive : 0 < nanosPerSecond := by decide
  ⟨positive, keeps_cadence positive⟩

example :
    (List.range 4).map (fun index =>
      ((unresponsive.collection.timetable nanosPerSecond (.start 0 1)).collection index).since) =
      [0, 2500000000, 5000000000, 7500000000] := by
  decide

end Agent

end NodeTelemetry
