/-
# Reconnecting on time

An agent that was turned away asks again when the delay is over, at that very moment, and
one that has lost its stream asks again as soon as the next round begins. This is so for
every relay and every source, whatever others do in between, as long as the agent is on
time: its chronicle can be read, mark by mark, and its deliverer does what is to come.
-/

import Mathlib.Tactic.IntervalCases
import NodeTelemetry.Delivery.Script
import NodeTelemetry.Proofs.Delivery.Course
import NodeTelemetry.Proofs.Delivery.Expecting

namespace NodeTelemetry

open Delivery

namespace Agent

variable {plan : Plan} {origin agent next : Agent} {limit : Option Nat}

/-! ## The collector -/

/-- The agent does first what is due first. -/
theorem step?_first (step : agent.step? plan limit = some next) :
    next = agent.stepDeliverer plan ∨ next = agent.stepCollector plan ∧
      ∃ moment ∈ agent.collector.dueAt? agent.session.cancelled agent.hub,
        ∀ due ∈ agent.deliverer.dueAt? agent.session, moment ≤ due := by
  obtain ⟨turn, same, first⟩ | ⟨-, same, -⟩ := step?_turn step
  · obtain ⟨moment, collecting, -⟩ := exists_lt_of_before first
    refine .inr ⟨same, moment, collecting, fun due delivering => ?_⟩
    have notFirst : before (agent.deliverer.dueAt? agent.session)
        (agent.collector.dueAt? agent.session.cancelled agent.hub) = false := by
      simpa [collects] using turn
    rw [Option.mem_def.mp collecting, Option.mem_def.mp delivering] at notFirst
    exact Nat.not_lt.mp (of_decide_eq_false notFirst)
  · exact .inl same

/-- The collector takes no longer than to the moment at which it goes on. -/
theorem now_stepCollector {moment : Nat}
    (goesOn : moment ∈ agent.collector.dueAt? agent.session.cancelled agent.hub) :
    (agent.stepCollector plan).hub.now ≤ max agent.hub.now moment := by
  change (agent.collector.step plan.collection agent.session.cancelled agent.hub).1.now ≤ _
  unfold Collection.Collector.step
  unfold Collection.Collector.dueAt? at goesOn
  cases phase : agent.collector.phase with
  | stopped => exact Nat.le_max_left _ _
  | idle =>
      rw [phase] at goesOn
      cases cancelled : agent.session.cancelled with
      | true => exact Nat.le_max_left _ _
      | false =>
          rw [cancelled] at goesOn
          obtain rfl : max agent.hub.now agent.collector.ticker.due = moment :=
            Option.some.inj goesOn
          exact Nat.le_max_right _ _
  | running collection =>
      rw [phase] at goesOn
      cases cancelled : agent.session.cancelled with
      | true => exact Nat.le_max_left _ _
      | false =>
          rw [cancelled] at goesOn
          obtain rfl : collection.due = moment := Option.some.inj goesOn
          exact Nat.le_of_eq (Hub.now_record _ collection.findings _)

/-- The collector leaves no mark. -/
theorem marks_stepCollector : (agent.stepCollector plan).hub.marks = agent.hub.marks := by
  change (agent.collector.step plan.collection agent.session.cancelled agent.hub).1.marks = _
  unfold Collection.Collector.step
  cases agent.collector.phase with
  | stopped => rfl
  | idle =>
      cases agent.session.cancelled with
      | true => rfl
      | false => exact Hub.marks_note _ rfl
  | running collection =>
      cases agent.session.cancelled with
      | true => exact Hub.marks_note _ rfl
      | false => exact Hub.marks_record _ collection.findings _

/-! ## Expecting agents -/

variable {initial longest : Duration} {state : Outlook × Nat}

/-- An agent that does what is to come next. -/
structure Expects (initial longest : Duration) (agent : Agent) (state : Outlook × Nat) :
    Prop where
  session : agent.session.Expects initial longest state
  inPhase : Deliverer.InPhase agent.session agent.deliverer

/-- An agent that sits out a delay goes on when it is over, or earlier if it is called
off. -/
theorem Expects.pauses (expects : agent.Expects initial longest state)
    (held : agent.session.line.hold = .pause) :
    ∃ due, agent.hub.now ≤ due ∧ state.1 = .pause due ∧
      ∃ moment ∈ agent.deliverer.dueAt? agent.session, moment ≤ due ∧
        (agent.session.cancelled = false → moment = due) := by
  obtain ⟨pending, waits, due, ends, soon, comes⟩ := expects.session.pauses held
  obtain waits : agent.session.pending = some pending := waits
  obtain ends : pending.due = some due := ends
  refine ⟨due, soon, comes, if agent.session.interrupted pending then agent.hub.now else due,
    ?_, ?_, fun goesOn => ?_⟩
  · rw [expects.inPhase.dueAt?_eq (by rw [waits]; rfl)]
    unfold Session.dueAt?
    rw [waits]
    simp only [ends]
    split <;> rfl
  · split
    · exact soon
    · exact Nat.le_refl due
  · refine if_neg ?_
    unfold Session.interrupted
    rw [goesOn]
    nofun

/-- The hub may change, as long as no more time passes than till the deliverer goes on. -/
theorem Expects.modifyHub (expects : agent.Expects initial longest state) (change : Hub → Hub)
    (timely : ∀ moment ∈ agent.deliverer.dueAt? agent.session,
      (change agent.hub).now ≤ max agent.hub.now moment) :
    (agent.modifyHub change).Expects initial longest state := by
  refine ⟨expects.session.modifyHub change fun pending waits due ends held soon => ?_,
    ⟨expects.inPhase.idle, expects.inPhase.stopped⟩⟩
  obtain ⟨expected, -, comes, moment, goesOn, notLater, -⟩ := expects.pauses held
  obtain ⟨paused, stillWaits, ending, stillEnds, -, same⟩ := expects.session.pauses held
  obtain rfl : pending = paused := Option.some.inj (waits.symm.trans stillWaits)
  obtain rfl : due = ending := Option.some.inj (ends.symm.trans stillEnds)
  obtain rfl : expected = due := Outlook.pause.inj (comes.symm.trans same)
  exact Nat.le_trans (timely moment goesOn) (Nat.max_le.mpr ⟨soon, notLater⟩)

theorem Expects.wait (expects : agent.Expects initial longest state) {moment : Nat}
    (rests : agent.step? plan (some moment) = none) :
    (agent.modifyHub (·.waitUntil moment)).Expects initial longest state := by
  refine expects.modifyHub _ fun due goesOn => ?_
  have notBefore := (not_before_of_step? rests).1
  rw [goesOn] at notBefore
  have notSooner : ¬due < moment := of_decide_eq_false notBefore
  change max agent.hub.now moment ≤ _
  omega

theorem Expects.intervene (expects : agent.Expects initial longest state)
    (intervention : Intervention) :
    (agent.intervene intervention).2.Expects initial longest state := by
  cases intervention with
  | nothing => exact expects
  | add snapshots =>
      refine expects.modifyHub _ fun moment _ => ?_
      rw [Hub.now_offerAll]
      exact Nat.le_max_left _ _
  | take =>
      refine expects.modifyHub (fun _ => agent.hub.take.2) fun moment _ => ?_
      rw [Hub.now_take]
      exact Nat.le_max_left _ _
  | cancel => exact ⟨expects.session.cancel, ⟨expects.inPhase.idle, expects.inPhase.stopped⟩⟩

theorem marks_intervene (intervention : Intervention) :
    (agent.intervene intervention).2.hub.marks = agent.hub.marks := by
  cases intervention with
  | add snapshots => exact agent.hub.marks_offerAll snapshots
  | take => exact agent.hub.marks_take
  | _ => rfl

/-- What an agent does is what is to come. -/
theorem Expects.step (expects : agent.Expects initial longest state)
    (step : agent.step? plan limit = some next) :
    Tells (agent.news next) agent next ∧ ∃ target,
      Outlook.read? (Backoff.delayNanos initial longest) (agent.news next) state = some target ∧
      next.Expects initial longest target := by
  obtain rfl | ⟨rfl, moment, goesOn, first⟩ := step?_first step
  · have proceeds := @Deliverer.proceeds_step plan.delivery _ _ _ _ _ expects.session
      expects.inPhase
    obtain ⟨rounds, later, target, leaves, reads, expectsOn⟩ |
      ⟨rounds, later, target, leaves, reads, expectsOn⟩ := proceeds.goesOn
    · have marks : (agent.stepDeliverer plan).hub.marks = agent.hub.marks ++ later := leaves
      have quiet : agent.roundBegun (agent.stepDeliverer plan) = [] :=
        if_neg (Nat.not_lt.mpr (Nat.le_of_eq rounds))
      refine ⟨tells_news marks (.inl rounds), target, ?_, expectsOn, proceeds.inPhase⟩
      rw [news_eq marks, quiet]
      exact reads
    · have marks : (agent.stepDeliverer plan).hub.marks = agent.hub.marks ++ later := leaves
      have begins : agent.roundBegun (agent.stepDeliverer plan) =
          [((agent.stepDeliverer plan).hub.now, .round)] :=
        if_pos (Nat.lt_of_lt_of_eq (Nat.lt_succ_self _) rounds.symm)
      refine ⟨tells_news marks (.inr rounds), target, ?_, expectsOn, proceeds.inPhase⟩
      rw [news_eq marks, begins]
      exact reads
  · have marks : (agent.stepCollector plan).hub.marks = agent.hub.marks ++ [] :=
      marks_stepCollector.trans (List.append_nil _).symm
    have quiet : agent.roundBegun (agent.stepCollector plan) = [] :=
      if_neg (Nat.lt_irrefl agent.deliverer.rounds)
    have timely : ∀ due ∈ agent.deliverer.dueAt? agent.session,
        (agent.stepCollector plan).hub.now ≤ max agent.hub.now due := by
      intro due delivering
      have notLater := @now_stepCollector plan agent moment goesOn
      have sooner := first due delivering
      omega
    have expectsOn := expects.modifyHub (fun _ => (agent.stepCollector plan).hub) timely
    refine ⟨tells_news marks (.inl rfl), state, ?_, expectsOn.session, expectsOn.inPhase⟩
    rw [news_eq marks, quiet]
    rfl

/-! ## Courses -/

/-- The chronicle of a course can be read, and the agent does what is to come after it. -/
structure Follows (initial longest : Duration) (course : Course plan origin agent)
    (state : Outlook × Nat) : Prop where
  tells : Tells course.chronicle origin agent
  reads : Outlook.read? (Backoff.delayNanos initial longest) course.chronicle (.round, 0) =
    some state
  expects : agent.Expects initial longest state

theorem Course.exists_follows (start : origin.Expects initial longest (.round, 0))
    (course : Course plan origin agent) : ∃ state, Follows initial longest course state := by
  induction course with
  | start => exact ⟨(.round, 0), tells_nil rfl rfl, rfl, start⟩
  | @step agent next course goesOn ih =>
      obtain ⟨state, told, reads, expects⟩ := ih
      obtain ⟨news, target, readsOn, expectsOn⟩ := expects.step goesOn
      refine ⟨target, told.trans news, ?_, expectsOn⟩
      change Outlook.read? _ (course.chronicle ++ _) _ = _
      rw [Outlook.read?_append, reads]
      exact readsOn
  | @wait agent course moment rests ih =>
      obtain ⟨state, told, reads, expects⟩ := ih
      exact ⟨state, ⟨told.marks, told.rounds⟩, reads, expects.wait rests⟩
  | @intervene agent course intervention ih =>
      obtain ⟨state, told, reads, expects⟩ := ih
      have sameRounds : (agent.intervene intervention).2.deliverer.rounds =
          agent.deliverer.rounds := by
        cases intervention <;> rfl
      exact ⟨state, ⟨(marks_intervene intervention).trans told.marks,
        sameRounds.trans told.rounds⟩, reads, expects.intervene intervention⟩

/-- An agent that has not begun expects nothing before its first round. -/
theorem expects_start {courier : Courier} (fresh : courier.link = .disconnected)
    (backoff : courier.backoff = .start initial longest) (collecting : Option Nat)
    (interval : Nat) :
    (Agent.start courier collecting (some interval)).Expects initial longest (.round, 0) := by
  have underway := underway_start fresh collecting interval
  have held : courier.line.hold = .nothing := congrArg Link.hold fresh
  refine ⟨⟨underway.sound.fits, backoff, ⟨fun _ => rfl, ?_, ?_⟩, ?_⟩, ⟨fun _ => ⟨rfl, ?_⟩, nofun⟩⟩
  · exact fun request => absurd (held.symm.trans request) (by decide)
  · exact fun stream holds => absurd (held.symm.trans holds) nofun
  · exact fun pause => absurd (held.symm.trans pause) (by decide)
  · exact fun ended => absurd (held.symm.trans ended) (by decide)

/-- The deliverer of an agent goes on at a moment that has not passed yet, and it goes on
by making a request. -/
structure WillAsk (plan : Plan) (agent : Agent) (due : Nat) : Prop where
  soon : agent.hub.now ≤ due
  goesOn : agent.deliverer.dueAt? agent.session = some due
  asks : ∃ attempt, (agent.stepDeliverer plan).hub.marks =
    agent.hub.marks ++ [(due, .asked attempt)]

/-- An agent sits out its delay unless it was called off. -/
theorem Expects.willAsk (expects : agent.Expects initial longest state)
    (underway : agent.Underway) (goesOn : agent.session.cancelled = false)
    (held : agent.session.line.hold = .pause) :
    ∃ due, state.1 = .pause due ∧ agent.WillAsk plan due := by
  obtain ⟨pending, waits, due, ends, soon, comes⟩ := expects.session.pauses held
  obtain ⟨ending, -, same, moment, delivering, -, onTime⟩ := expects.pauses held
  obtain rfl : due = ending := Outlook.pause.inj (comes.symm.trans same)
  obtain rfl := onTime goesOn
  exact ⟨moment, comes, soon, delivering,
    Deliverer.exists_asked_step expects.inPhase underway.sound goesOn waits ends soon held⟩

/-- How an agent gets a new stream. -/
structure Reconnects (initial longest : Duration) (course : Course plan origin agent) :
    Prop where
  /-- The chronicle tells exactly what is in the journal. -/
  tells : Tells course.chronicle origin agent
  /-- A refusal is followed by the next request, at the moment at which the delay is over.
  As long as the request was not made, it will be made at that moment, unless delivery was
  called off. -/
  refused : ∀ {before later : List (Nat × Mark)} {moment attempt : Nat},
    course.chronicle = before ++ (moment, .refused attempt) :: later →
    (∃ next rest, later =
      (moment + Backoff.delayNanos initial longest (refusalsIn before), .asked next) :: rest) ∨
    later = [] ∧ (agent.session.cancelled = true ∨
      agent.WillAsk plan (moment + Backoff.delayNanos initial longest (refusalsIn before)))
  /-- After a request was accepted only rounds begin, until the stream breaks. -/
  accepted : ∀ {before later : List (Nat × Mark)} {moment attempt : Nat},
    course.chronicle = before ++ (moment, .accepted attempt) :: later →
    ∃ rounds rest, later = rounds ++ rest ∧ (∀ entry ∈ rounds, entry.2 = .round) ∧
      (rest = [] ∨ ∃ breaks more, rest = (breaks, .broke attempt) :: more)
  /-- After a stream has broken, the next request is made at the moment at which the next
  round begins, unless delivery was called off. -/
  broke : ∀ {before later : List (Nat × Mark)} {moment attempt : Nat},
    course.chronicle = before ++ (moment, .broke attempt) :: later →
    later = [] ∨ ∃ begins,
      later = [(begins, .round)] ∧ agent.session.cancelled = true ∨
      ∃ next rest, later = (begins, .round) :: (begins, .asked next) :: rest
  /-- Until a request is accepted, no delay is shorter than one before, and none is longer
  than the longest. -/
  grows : ∀ {before between later : List (Nat × Mark)} {first second moment attempt : Nat},
    course.chronicle =
      before ++ (first, .refused attempt) :: between ++ (moment, .refused second) :: later →
    (∀ entry ∈ between, ∀ stream, entry.2 ≠ .accepted stream) →
    Backoff.delayNanos initial longest (refusalsIn before) ≤
        Backoff.delayNanos initial longest
          (refusalsIn (before ++ (first, .refused attempt) :: between)) ∧
      Backoff.delayNanos initial longest
          (refusalsIn (before ++ (first, .refused attempt) :: between)) ≤ longest.nanos

/-- Before a request that is to come at a moment, a delay is sat out, unless the link is
terminated. -/
theorem Expects.asking (expects : agent.Expects initial longest state) {due : Nat}
    (asks : state.1 = .pause due ∨ state.1 = .request due) :
    agent.session.line.hold = .ended ∨
      agent.session.line.hold = .pause ∧ state.1 = .pause due := by
  obtain ⟨round, answer, stream⟩ := expects.session.awaits
  cases held : agent.session.line.hold with
  | ended => exact .inl rfl
  | nothing => simp [round held] at asks
  | request => simp [answer held] at asks
  | stream attempt => simp [stream attempt held] at asks
  | pause =>
      obtain ⟨ending, -, comes, -⟩ := expects.pauses held
      obtain pauses | requests := asks
      · exact .inr ⟨rfl, pauses⟩
      · cases comes.symm.trans requests

/-- Only calling delivery off terminates the link. -/
theorem Course.cancelled_of_ended (course : Course plan origin agent) (start : origin.Underway)
    (ended : agent.session.line.hold = .ended) : agent.session.cancelled = true := by
  cases cancelled : agent.session.cancelled with
  | true => rfl
  | false =>
      have running := (course.reached.underway start cancelled).sound.running
      exact absurd (agent.session.ended_iff.mp ended) running

/-- An agent that is on time reconnects on time. -/
theorem Course.reconnects {initial longest : Duration} {hub : Hub} {collecting : Option Nat}
    {interval : Nat}
    (course : Course plan
      (Agent.start { hub, backoff := .start initial longest } collecting (some interval)) agent) :
    Reconnects initial longest course := by
  have underway := @underway_start { hub, backoff := .start initial longest } rfl collecting
    interval
  have start := @expects_start initial longest { hub, backoff := .start initial longest } rfl rfl
    collecting interval
  obtain ⟨state, tells, reads, expects⟩ := course.exists_follows start
  refine ⟨tells, ?_, ?_, ?_, ?_⟩
  · intro before later moment attempt chronicle
    rw [chronicle] at reads
    obtain ⟨last, comes⟩ | asked := Outlook.read?_refused reads
    · refine .inr ⟨last, ?_⟩
      obtain ended | ⟨held, -⟩ := expects.asking (.inl comes)
      · exact .inl (course.cancelled_of_ended underway ended)
      · cases cancelled : agent.session.cancelled with
        | true => exact .inl rfl
        | false =>
            have going := course.reached.underway underway cancelled
            obtain ⟨due, same, willAsk⟩ := expects.willAsk going cancelled held
            obtain rfl := Outlook.pause.inj (comes.symm.trans same)
            exact .inr willAsk
    · exact .inl asked
  · intro before later moment attempt chronicle
    rw [chronicle] at reads
    exact Outlook.read?_accepted reads
  · intro before later moment attempt chronicle
    rw [chronicle] at reads
    obtain last | ⟨begins, ⟨last, comes⟩ | asked⟩ := Outlook.read?_broke reads
    · exact .inl last
    · refine .inr ⟨begins, .inl ⟨last, ?_⟩⟩
      obtain ended | ⟨-, pauses⟩ := expects.asking (.inr comes)
      · exact course.cancelled_of_ended underway ended
      · cases comes.symm.trans pauses
    · exact .inr ⟨begins, .inr asked⟩
  · intro before between later first second moment attempt _ unaccepted
    have forgetsNone := refusalsIn_le_append before
      (List.forall_mem_cons.mpr ⟨fun _ => nofun, unaccepted⟩ :
        ∀ entry ∈ (first, Mark.refused attempt) :: between, ∀ stream, entry.2 ≠ .accepted stream)
    exact ⟨Backoff.delayNanos_mono initial longest forgetsNone,
      Backoff.delayNanos_le_longest initial longest _⟩

/-! ### An outage -/

/-- A relay that refuses two requests and breaks the stream of the third one with the first
send. Nothing is collected. -/
def fickle : Plan where
  collection := { limit := nanosPerSecond, sources := fun _ _ => ⟨none, .error []⟩ }
  delivery :=
    { peer := .ofScript [some { refuses := true }, some { refuses := true },
        some { failsOn := some 1 }] none }

/-- An agent with a snapshot to deliver, after so many steps of its deliverer. Rounds begin
five nanoseconds after each other, and the delays are one nanosecond, two, and then four. -/
def outlasting : Nat → Agent
  | 0 =>
    let hub := (Hub.start 0 1).offerAll [⟨0, none, []⟩]
    start { hub, backoff := .start (.ofNanos 1) (.ofNanos 4) } none (some 5)
  | steps + 1 => (outlasting steps).stepDeliverer fickle

theorem step?_outlasting : ∀ steps < 8,
    (outlasting steps).step? fickle none = some (outlasting (steps + 1)) := by
  intro steps early
  interval_cases steps <;> rfl

/-- The relay is asked again when the delays are over, and once more as soon as the round after
the broken stream begins. -/
theorem Course.reconnects_outlasting :
    ∃ course : Course fickle (outlasting 0) (outlasting 8),
      course.chronicle =
        [(0, .round), (0, .asked 1), (0, .refused 1), (1, .asked 2), (1, .refused 2),
          (3, .asked 3), (3, .accepted 3), (3, .broke 3), (5, .round), (5, .asked 4)] ∧
      Reconnects (.ofNanos 1) (.ofNanos 4) course :=
  ⟨.along 8 step?_outlasting, by decide +kernel, Course.reconnects _⟩

end Agent

end NodeTelemetry
