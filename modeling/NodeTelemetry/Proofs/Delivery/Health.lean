/-
# What is shown of the relay

The health registry holds the latest verdict on the relay. A deliverer reports the state
of its link after each round, and in the middle of a round it reports nothing. The first
round ends only when a stream was opened, however many requests are refused until then;
so as long as it lasts, the registry shows what was registered at the beginning. From
then on, a relay that is shown as healthy is connected.
-/

import NodeTelemetry.Proofs.Delivery.Rounds

namespace NodeTelemetry

open Delivery

/-! ## Verdicts on the relay -/

namespace Health

/-- The verdict on the relay after a report. -/
def Report.judgeRelay (before : Option Verdict) : Report → Option Verdict
  | .registerAll => some .healthy
  | .link state buffered => (Verdict.ofLink state buffered).or before
  | _ => before

theorem Registry.relay_record (now : Int64) (registry : Registry) (report : Report) :
    (registry.record now report).relay.map (·.verdict) =
      report.judgeRelay (registry.relay.map (·.verdict)) := by
  cases report with
  | link state buffered =>
      simp only [record, Report.judgeRelay]
      cases Verdict.ofLink state buffered <;> rfl
  | _ => rfl

theorem Registry.relay_foldl (now : Int64) (registry : Registry) (reports : List Report) :
    (reports.foldl (.record now) registry).relay.map (·.verdict) =
      reports.foldl Report.judgeRelay (registry.relay.map (·.verdict)) := by
  induction reports generalizing registry with
  | nil => rfl
  | cons report later ih => rw [List.foldl_cons, ih, relay_record, List.foldl_cons]

/-- A link is judged healthy only when it is connected. -/
theorem Verdict.ofLink_eq_healthy {state : LinkState} {buffered : Nat} :
    ofLink state buffered = some healthy ↔ state = .connected := by
  cases state <;> simp [ofLink, healthy]

end Health

open Health (Verdict)

/-- The verdict on the relay after an event. -/
def Event.judgeRelay (before : Option Verdict) (event : Event) : Option Verdict :=
  event.reports.foldl Health.Report.judgeRelay before

theorem Event.judgeRelay_of_not_isReport {event : Event} (noReport : event.isReport = false)
    (before : Option Verdict) : event.judgeRelay before = before := by
  cases event <;> first | rfl | cases noReport

/-- The moments of the events do not matter for the verdict. -/
theorem Journal.relay_registry (epoch : Int64) (journal : Journal) :
    (journal.registry epoch).relay.map (·.verdict) =
      journal.events.foldl Event.judgeRelay none := by
  have folded : ∀ registry : Health.Registry,
      (journal.foldl
        (fun registry entry => entry.2.reports.foldl
          (.record (epoch + Int64.ofNat (entry.1 / nanosPerSecond))) registry)
        registry).relay.map (·.verdict) =
      journal.events.foldl Event.judgeRelay (registry.relay.map (·.verdict)) := by
    induction journal with
    | nil => exact fun _ => rfl
    | cons entry later ih =>
        intro registry
        rw [List.foldl_cons, ih, Health.Registry.relay_foldl]
        rfl
  exact folded {}

namespace Hub

variable {hub before after : Hub} {allowed : List Dealing} {origin target : Standing}

/-- The verdict on the relay that the health registry holds. -/
def relay (hub : Hub) : Option Verdict :=
  (hub.journal.registry hub.epoch).relay.map (·.verdict)

theorem relay_eq (hub : Hub) : hub.relay = hub.journal.events.foldl Event.judgeRelay none :=
  hub.journal.relay_registry hub.epoch

theorem relay_note (hub : Hub) (event : Event) :
    (hub.note event).relay = event.judgeRelay hub.relay := by
  rw [relay_eq, relay_eq, events_note, List.foldl_append]
  rfl

/-- Without reports there is no new verdict. -/
theorem Passage.relay_eq (passage : Passage allowed before origin after target)
    (noReport : .report ∉ allowed) : after.relay = before.relay := by
  obtain ⟨events, hevents, trail⟩ := passage
  have unreported := trail.unreported noReport
  rw [Hub.relay_eq, Hub.relay_eq, hevents, List.foldl_append]
  generalize before.journal.events.foldl Event.judgeRelay none = verdict
  clear trail hevents
  induction events with
  | nil => rfl
  | cons event later ih =>
      rw [List.foldl_cons, Event.judgeRelay_of_not_isReport (unreported event (.head _))]
      exact ih fun event listed => unreported event (.tail _ listed)

end Hub

/-! ## Once connected, a round needs no other stream -/

namespace Delivery

/-- Whether a call has got past connecting. -/
def Progress.delivers : Progress → Bool
  | .waiting (.sending ..) => true
  | .waiting _ => false
  | _ => true

namespace Courier

variable {courier : Courier} {cancelled : Bool} {result : Courier × Progress}

theorem delivers_giveUp (fresh : Option Snapshot) : (courier.giveUp fresh).2.delivers := by
  cases fresh <;> rfl

theorem delivers_send (snapshot : Snapshot) (turn : Turn) :
    (courier.send snapshot turn).2.delivers := by
  unfold send
  cases courier.link <;> rfl

theorem delivers_perform (task : Task) : (courier.perform cancelled task).2.delivers := by
  cases task with
  | keep snapshot => rfl
  | putBack snapshot turn =>
      cases turn with
      | backlog fresh => exact delivers_giveUp fresh
      | fresh => rfl
  | drain fresh =>
      change (courier.drain cancelled fresh).2.delivers
      unfold drain
      split
      · exact delivers_giveUp fresh
      · obtain ⟨oldest, backlog⟩ := courier.hub.backlog.pop
        cases oldest with
        | some snapshot => exact delivers_send snapshot _
        | none =>
            cases fresh with
            | some snapshot => exact delivers_send snapshot _
            | none => rfl

theorem delivers_settle (delivers : result.2.delivers) :
    (settle cancelled result).2.delivers := by
  have worked : ∀ {result : Courier × Progress}, result.2.delivers →
      (work cancelled result).2.delivers := by
    intro result delivers
    obtain ⟨courier, progress⟩ := result
    cases progress with
    | working task => exact delivers_perform task
    | waiting wait => exact delivers
    | returned success => exact delivers
  exact worked (worked (worked delivers))

theorem delivers_settled (signal : Signal) (snapshot : Snapshot) (turn : Turn) :
    (courier.settled signal snapshot turn).2.delivers := by
  cases signal with
  | done => cases turn <;> rfl
  | failed => rfl
  | cancelled => rfl

end Courier

namespace Session

variable {peer : Peer} {session : Session}

/-- A call that has got past connecting waits with a connected link. -/
theorem connected_of_delivers (fits : session.traffic.Fits)
    (delivers : session.traffic.progress.delivers) (waits : session.pending.isSome) :
    session.courier.state = .connected := by
  obtain ⟨pending, waits⟩ := Option.isSome_iff_exists.mp waits
  have states := fits_of_waits fits waits
  rw [traffic_of_waits waits] at delivers
  cases wait : pending.wait with
  | sending snapshot turn =>
      rw [wait] at states
      exact List.mem_singleton.mp states
  | _ =>
      simp only [wait] at delivers
      cases delivers

/-- A round that begins with a stream does not connect. -/
theorem delivers_start (connected : session.courier.state = .connected) :
    (session.start peer (.tick none)).traffic.progress.delivers := by
  unfold start
  rw [traffic_absorb]
  apply Courier.delivers_settle
  obtain ⟨stream, link⟩ := Link.exists_stream connected
  unfold Courier.start Courier.connect
  simp only [link]
  rfl

/-- A round that has got past connecting does not go back to it. -/
theorem delivers_step (goesOn : session.cancelled = false)
    (delivers : session.traffic.progress.delivers) :
    (session.step peer).traffic.progress.delivers := by
  obtain same | ⟨pending, due, waits, step⟩ := @step_cases peer session goesOn
  · rw [same]
    exact delivers
  · rw [step, traffic_absorb]
    apply Courier.delivers_settle
    rw [traffic_of_waits waits] at delivers
    cases wait : pending.wait with
    | sending snapshot turn => exact Courier.delivers_settled pending.signal snapshot turn
    | _ =>
        simp only [wait] at delivers
        cases delivers

end Session

/-! ## Taking stock -/

namespace Deliverer

open Hub (Passage)

variable {plan : Plan} {session next : Session} {deliverer : Deliverer}

/-- What a deliverer has to show for the relay, at any moment until it is called off. -/
structure Shows (session : Session) (deliverer : Deliverer) : Prop where
  begun : deliverer.phase = .delivering → 0 < deliverer.rounds
  /-- Before the end of the first round, the verdict is the registered one. -/
  registered : deliverer.rounds = 0 ∨ deliverer.rounds = 1 ∧ deliverer.phase = .delivering →
    session.hub.relay = some .healthy
  /-- Between two rounds, the verdict is true. -/
  judged : 0 < deliverer.rounds → deliverer.phase = .idle →
    (session.hub.relay = some .healthy ↔ session.courier.state = .connected)
  /-- A later round on a relay that is shown as healthy has begun with a stream. -/
  delivers : 1 < deliverer.rounds → deliverer.phase = .delivering →
    session.hub.relay = some .healthy → session.traffic.progress.delivers

theorem Shows.modifyHub (shows : Shows session deliverer) (change : Hub → Hub)
    (same : (change session.hub).relay = session.hub.relay) :
    Shows (session.modifyHub change) deliverer := by
  have unchanged : (session.modifyHub change).hub.relay = session.hub.relay := same
  refine ⟨shows.begun, ?_, ?_, ?_⟩
  · rw [unchanged]
    exact shows.registered
  · rw [unchanged]
    exact shows.judged
  · rw [unchanged]
    exact shows.delivers

/-- A link that is not terminated is judged by its state. -/
theorem relay_survey (running : session.courier.state ≠ .terminated) :
    (survey session).hub.relay = some .healthy ↔ session.courier.state = .connected := by
  have judged : (survey session).hub.relay =
      (Verdict.ofLink session.courier.state session.hub.backlog.length).or session.hub.relay :=
    session.hub.relay_note _
  have verdict : (Verdict.ofLink session.courier.state session.hub.backlog.length).isSome := by
    cases state : session.courier.state with
    | terminated => exact absurd state running
    | _ => rfl
  rw [judged, Option.or_of_isSome verdict, Verdict.ofLink_eq_healthy]

theorem Shows.conclude (sound : session.Sound) (begun : 0 < deliverer.rounds)
    (registered : deliverer.rounds = 1 → session.hub.relay = some .healthy)
    (delivers : 1 < deliverer.rounds → session.hub.relay = some .healthy →
      session.traffic.progress.delivers) :
    Shows (deliverer.conclude plan session).1 (deliverer.conclude plan session).2 := by
  rw [conclude_eq sound]
  split
  · refine ⟨fun _ => begun, ?_, nofun, fun later _ => delivers later⟩
    rintro (none | ⟨first, -⟩)
    · exact absurd none (Nat.ne_of_gt begun)
    · exact registered first
  · refine ⟨nofun, ?_, fun _ _ => relay_survey sound.running, nofun⟩
    rintro (none | ⟨-, delivering⟩)
    · exact absurd none (Nat.ne_of_gt begun)
    · cases delivering

/-- Each step keeps to it: a round that begins without a stream is shown as degraded,
unless it is the first one. -/
theorem Shows.step (shows : Shows session deliverer) (underway : Underway session deliverer)
    (goesOn : session.cancelled = false) :
    Shows (deliverer.step plan session).1 (deliverer.step plan session).2 := by
  rw [step_eq underway goesOn]
  obtain ⟨idle, free⟩ | ⟨delivering, -⟩ := underway.phase
  · rw [if_pos idle]
    have later := underway.sound.modifyHub (·.waitUntil deliverer.ticker.due)
    obtain ⟨sound, passage⟩ := @Session.Sound.start plan.peer _ later free goesOn
    have same : _ = session.hub.relay := passage.relay_eq (by decide)
    refine .conclude sound (Nat.succ_pos _) ?_ ?_
    · intro first
      rw [same]
      exact shows.registered (.inl (Nat.succ.inj first))
    · intro second healthy
      rw [same] at healthy
      have connected := (shows.judged (Nat.lt_of_succ_lt_succ second) idle).mp healthy
      exact Session.delivers_start connected
  · rw [if_neg (by simp [delivering])]
    obtain ⟨sound, passage⟩ := @Session.Sound.step plan.peer _ underway.sound goesOn
    have same := passage.relay_eq (by decide)
    refine .conclude sound (shows.begun delivering) ?_ ?_
    · intro first
      rw [same]
      exact shows.registered (.inr ⟨first, delivering⟩)
    · intro later healthy
      rw [same] at healthy
      exact Session.delivers_step goesOn (shows.delivers later delivering healthy)

end Deliverer

end Delivery

/-! ## Agents -/

namespace Agent

variable {plan : Plan} {origin agent next : Agent} {limit : Option Nat}

/-- The relay is shown as healthy, but the link is not connected. -/
def Misjudged (agent : Agent) : Prop :=
  agent.hub.relay = some .healthy ∧ agent.session.courier.state ≠ .connected

def Shows (agent : Agent) : Prop := Deliverer.Shows agent.session agent.deliverer

theorem Shows.modifyHub (shows : agent.Shows) (change : Hub → Hub)
    (same : (change agent.hub).relay = agent.hub.relay) : (agent.modifyHub change).Shows :=
  Deliverer.Shows.modifyHub shows change same

theorem Shows.step (shows : agent.Shows) (underway : agent.Underway)
    (goesOn : agent.session.cancelled = false) (step : agent.step? plan limit = some next) :
    next.Shows := by
  obtain ⟨rfl, -⟩ | ⟨rfl, -⟩ := step?_cases step
  · exact Deliverer.Shows.step shows underway goesOn
  · have collected := @passage_stepCollector plan agent [] .closing
    exact shows.modifyHub (fun _ => (agent.stepCollector plan).hub)
      (collected.relay_eq List.not_mem_nil)

theorem Reached.shows (reached : Reached plan origin agent) (underway : origin.Underway)
    (start : origin.Shows) (goesOn : agent.session.cancelled = false) : agent.Shows := by
  induction reached with
  | start => exact start
  | @step agent next limit reached step ih =>
      have before := goesOn_before step goesOn
      exact (ih before).step (reached.underway underway before) before step
  | @wait agent reached moment ih => exact (ih goesOn).modifyHub _ rfl
  | @intervene agent reached intervention ih =>
      cases intervention with
      | nothing => exact ih goesOn
      | add snapshots =>
          have added : Hub.Passage [] agent.hub .closing (agent.hub.offerAll snapshots) .closing :=
            Hub.passage_offerAll snapshots
          exact (ih goesOn).modifyHub _ (added.relay_eq List.not_mem_nil)
      | take =>
          have taken : Hub.Passage [] agent.hub .closing agent.hub.take.2 .closing :=
            Hub.passage_take
          exact (ih goesOn).modifyHub _ (taken.relay_eq List.not_mem_nil)
      | cancel => cases goesOn

/-- An agent on any hub, whose components have just been registered. -/
def registered (hub : Hub) (backoff : Backoff) (collecting : Option Nat) (interval : Nat) :
    Agent :=
  start { hub := hub.note (.reported .registerAll), backoff } collecting (some interval)

theorem shows_registered (hub : Hub) (backoff : Backoff) (collecting : Option Nat)
    (interval : Nat) : (registered hub backoff collecting interval).Shows := by
  refine ⟨nofun, fun _ => ?_, nofun, nofun⟩
  change (hub.note (.reported .registerAll)).relay = _
  rw [Hub.relay_note]
  rfl

/-- As long as delivery is not called off, the relay is shown as healthy without a
connected link in the first round, until a stream was opened, and never after it. -/
theorem misjudged_iff {hub : Hub} {backoff : Backoff} {collecting : Option Nat}
    {interval : Nat} (reached : Reached plan (registered hub backoff collecting interval) agent)
    (goesOn : agent.session.cancelled = false) (begun : 0 < agent.deliverer.rounds) :
    agent.Misjudged ↔ agent.deliverer.rounds = 1 ∧ agent.deliverer.phase = .delivering ∧
      agent.session.courier.state ≠ .connected := by
  have fresh : (registered hub backoff collecting interval).Underway :=
    underway_start rfl collecting interval
  have underway := reached.underway fresh goesOn
  have shows := reached.shows fresh (shows_registered hub backoff collecting interval) goesOn
  constructor
  · rintro ⟨healthy, notConnected⟩
    obtain ⟨idle, -⟩ | ⟨delivering, waits⟩ := underway.phase
    · exact absurd ((shows.judged begun idle).mp healthy) notConnected
    · refine ⟨?_, delivering, notConnected⟩
      rcases Nat.lt_or_ge 1 agent.deliverer.rounds with later | first
      · have delivers := shows.delivers later delivering healthy
        exact absurd (Session.connected_of_delivers underway.sound.fits delivers waits) notConnected
      · exact Nat.le_antisymm first begun
  · rintro ⟨first, delivering, notConnected⟩
    exact ⟨shows.registered (.inr ⟨first, delivering⟩), notConnected⟩

/-- A relay that refuses every request, and sources that never answer. -/
def refusing : Plan where
  collection := { limit := nanosPerSecond, sources := fun _ _ => ⟨none, .error []⟩ }
  delivery := { peer := { opening := fun _ => { accepts := false }, sending := fun _ _ => {} } }

/-- An agent that was turned away by the relay half a second ago, and backs off. -/
def turnedAway : Agent :=
  (registered (.start 0 10) .standard none nanosPerSecond).runUntil refusing 10
    (nanosPerSecond / 2)

theorem reached_turnedAway :
    Reached refusing (registered (.start 0 10) .standard none nanosPerSecond) turnedAway :=
  Reached.start.runUntil 10 (nanosPerSecond / 2)

theorem misjudged_iff_turnedAway :
    turnedAway.session.cancelled = false ∧ 0 < turnedAway.deliverer.rounds ∧
      (turnedAway.Misjudged ↔ turnedAway.deliverer.rounds = 1 ∧
        turnedAway.deliverer.phase = .delivering ∧
        turnedAway.session.courier.state ≠ .connected) :=
  ⟨rfl, Nat.one_pos, misjudged_iff reached_turnedAway rfl Nat.one_pos⟩

/-- Being shown as healthy does not mean that the link is connected: an agent that was
turned away has never been. -/
theorem not_connected_of_healthy :
    ¬∀ agent, Reached refusing (registered (.start 0 10) .standard none nanosPerSecond) agent →
      agent.session.cancelled = false → 0 < agent.deliverer.rounds →
      agent.hub.relay = some .healthy → agent.session.courier.state = .connected := by
  intro claimed
  have connected := claimed turnedAway reached_turnedAway rfl Nat.one_pos rfl
  have backsOff : turnedAway.session.courier.state = .backoff := rfl
  rw [backsOff] at connected
  cases connected

end Agent

end NodeTelemetry
