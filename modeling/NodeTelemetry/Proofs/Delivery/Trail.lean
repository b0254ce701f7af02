/-
# Trails of a link

What happens to a link leaves a trail in the journal. A trail leads from how it stands
with a link to how it stands later, and each piece of it is one of a few: the link sets
out, asks, is accepted or refused, and so on. Everything that the journal can say about
links in general follows from these pieces, without looking at what a courier does.

A piece is allowed or not by the dealings that it takes: whether requests may begin,
whether answers may come in, whether delivery is being ended. A step of a courier has
the dealings that its circumstances allow, and no others.
-/

import NodeTelemetry.Delivery.Courier
import NodeTelemetry.Proofs.Counters

namespace NodeTelemetry

/-- Whether an event is about a link. -/
def Event.isLink : Event → Bool
  | .moved .. | .opening _ | .opened _ | .refused _ | .sending .. | .sent .. | .sendFailed ..
  | .sendAbandoned .. | .closing _ | .unlinked => true
  | _ => false

/-- Whether the health of the relay may be judged by an event. -/
def Event.isReport : Event → Bool
  | .surveyed .. | .reported _ => true
  | _ => false

/-- Whether the relay is asked for a stream by an event, or given a snapshot. -/
def Event.isRequest : Event → Bool
  | .opening _ | .sending .. => true
  | _ => false

/-- Whether a stream is told to close by an event. -/
def Event.isClosing : Event → Bool
  | .closing _ => true
  | _ => false

theorem Event.not_isRequest_of_not_isLink {event : Event} (notLink : event.isLink = false) :
    event.isRequest = false := by
  cases event <;> first | rfl | cases notLink

theorem Event.not_isClosing_of_not_isLink {event : Event} (notLink : event.isLink = false) :
    event.isClosing = false := by
  cases event <;> first | rfl | cases notLink

theorem Journal.closes_eq (journal : Journal) :
    journal.closes = journal.events.countP Event.isClosing :=
  List.countP_eq_length_filter.symm

namespace Delivery

/-- What a step may have to do with others. -/
inductive Dealing where
  /-- Streams may be asked for, and snapshots given to them. -/
  | request
  /-- The relay may answer. -/
  | answer
  /-- Delivery may be ended. -/
  | quit
  /-- Reports on health may be made. -/
  | report
  deriving DecidableEq

/-- How it stands with a link. A link that has been terminated may still have its stream
closing. -/
inductive Standing where
  | link (link : Link)
  | closing

/-- The state that is shown. -/
def Standing.state : Standing → LinkState
  | .link held => held.state
  | .closing => .terminated

/-- One piece of a trail, with the events in it. -/
inductive Leads (allowed : List Dealing) : Standing → List Event → Standing → Prop where
  /-- Something else is written down. -/
  | aside {standing : Standing} {event : Event} (notLink : event.isLink = false)
      (may : event.isReport = false ∨ .report ∈ allowed) :
      Leads allowed standing [event] standing
  | setOut : Leads allowed (.link .disconnected) [.moved .disconnected .connecting]
      (.link .connecting)
  | ask (may : .request ∈ allowed) (attempt : Nat) :
      Leads allowed (.link .connecting) [.opening attempt] (.link .connecting)
  | accepted (may : .answer ∈ allowed) (attempt : Nat) :
      Leads allowed (.link .connecting) [.opened attempt, .moved .connecting .connected]
        (.link (.connected ⟨attempt, 0⟩))
  | refused (may : .answer ∈ allowed) (attempt : Nat) (delay : Duration) :
      Leads allowed (.link .connecting) [.refused attempt, .moved .connecting .backoff]
        (.link (.backoff delay))
  | retry (delay : Duration) :
      Leads allowed (.link (.backoff delay)) [.moved .backoff .connecting] (.link .connecting)
  | giveUp (may : .quit ∈ allowed) :
      Leads allowed (.link .connecting) [.moved .connecting .terminated] (.link .terminated)
  | giveUpWaiting (may : .quit ∈ allowed) (delay : Duration) :
      Leads allowed (.link (.backoff delay)) [.moved .backoff .terminated] (.link .terminated)
  | give (may : .request ∈ allowed) (stream : Stream) (snapshot : Snapshot) :
      Leads allowed (.link (.connected stream)) [.sending stream.attempt snapshot]
        (.link (.connected { stream with sends := stream.sends + 1 }))
  | taken (may : .answer ∈ allowed) (stream : Stream) (snapshot : Snapshot) :
      Leads allowed (.link (.connected stream)) [.sent stream.attempt snapshot]
        (.link (.connected stream))
  | broken (may : .answer ∈ allowed) (stream : Stream) (snapshot : Snapshot) :
      Leads allowed (.link (.connected stream))
        [.sendFailed stream.attempt snapshot, .moved .connected .disconnected]
        (.link .disconnected)
  | abandon (may : .quit ∈ allowed) (stream : Stream) (snapshot : Snapshot) :
      Leads allowed (.link (.connected stream)) [.sendAbandoned stream.attempt snapshot]
        (.link (.connected stream))
  | close (may : .quit ∈ allowed) (stream : Stream) :
      Leads allowed (.link (.connected stream)) [.closing stream.attempt] .closing
  | closed : Leads allowed .closing [.unlinked] (.link .terminated)
  | leave (may : .quit ∈ allowed) {link : Link} (notConnected : link.state ≠ .connected) :
      Leads allowed (.link link) [.unlinked] (.link .terminated)

/-- The pieces that follow each other, with all events in order. -/
inductive Trail (allowed : List Dealing) (origin : Standing) :
    List Event → Standing → Prop where
  | rest : Trail allowed origin [] origin
  | step {events more : List Event} {between target : Standing}
      (earlier : Trail allowed origin events between)
      (latest : Leads allowed between more target) :
      Trail allowed origin (events ++ more) target

variable {allowed others : List Dealing} {origin between target : Standing}
  {events more : List Event}

namespace Leads

theorem mono (latest : Leads allowed between more target) (wider : allowed ⊆ others) :
    Leads others between more target := by
  cases latest with
  | aside notLink may => exact .aside notLink (may.imp_right fun listed => wider listed)
  | setOut => exact .setOut
  | ask may attempt => exact .ask (wider may) attempt
  | accepted may attempt => exact .accepted (wider may) attempt
  | refused may attempt delay => exact .refused (wider may) attempt delay
  | retry delay => exact .retry delay
  | giveUp may => exact .giveUp (wider may)
  | giveUpWaiting may delay => exact .giveUpWaiting (wider may) delay
  | give may stream snapshot => exact .give (wider may) stream snapshot
  | taken may stream snapshot => exact .taken (wider may) stream snapshot
  | broken may stream snapshot => exact .broken (wider may) stream snapshot
  | abandon may stream snapshot => exact .abandon (wider may) stream snapshot
  | close may stream => exact .close (wider may) stream
  | closed => exact .closed
  | leave may notConnected => exact .leave (wider may) notConnected

end Leads

namespace Trail

theorem single (latest : Leads allowed origin more target) : Trail allowed origin more target :=
  .step .rest latest

theorem trans (earlier : Trail allowed origin events between)
    (later : Trail allowed between more target) :
    Trail allowed origin (events ++ more) target := by
  induction later with
  | rest =>
      rw [List.append_nil]
      exact earlier
  | step _ latest ih =>
      rw [← List.append_assoc]
      exact ih.step latest

theorem mono (trail : Trail allowed origin events target) (wider : allowed ⊆ others) :
    Trail others origin events target := by
  induction trail with
  | rest => exact .rest
  | step _ latest ih => exact ih.step (latest.mono wider)

end Trail

end Delivery

/-! ## The path of logged transitions -/

/-- The change of state that a notice tells of. -/
def Log.Notice.edge? : Log.Notice → Option (LinkState × LinkState)
  | .linkTransition origin target => some (origin, target)
  | _ => none

/-- The changes of state that events have logged. -/
def Event.edges (event : Event) : List (LinkState × LinkState) :=
  event.notices.filterMap Log.Notice.edge?

/-- Changes of state along the edges of the diagram, each from where the one before led. -/
inductive LinkState.Path (origin : LinkState) : List (LinkState × LinkState) → LinkState → Prop
    where
  | nil : Path origin [] origin
  | snoc {edges : List (LinkState × LinkState)} {between target : LinkState}
      (earlier : Path origin edges between) (edge : LinkState.Edge between target) :
      Path origin (edges ++ [(between, target)]) target

theorem LinkState.not_edge_terminated {next : LinkState} : ¬Edge .terminated next := by
  cases next <;> exact id

theorem Event.edges_of_not_isLink {event : Event} (notLink : event.isLink = false) :
    event.edges = [] := by
  cases event <;> first | rfl | cases notLink

namespace Delivery

variable {allowed : List Dealing} {origin target : Standing} {events : List Event}

/-- A trail from a fresh link logs a path through the diagram. The path ends in the state
of the link, unless delivery was ended, which is not logged. -/
theorem Trail.exists_path (trail : Trail allowed (.link .disconnected) events target) :
    ∃ last, LinkState.Path .disconnected (events.flatMap Event.edges) last ∧
      (target.state = last ∨ target.state = .terminated) := by
  induction trail with
  | rest => exact ⟨.disconnected, .nil, .inl rfl⟩
  | @step events more between target _ latest ih =>
      obtain ⟨last, path, standing⟩ := ih
      rw [List.flatMap_append]
      -- An edge goes on from the end of the path, since no edge leaves a terminated link.
      have follow : ∀ next, LinkState.Edge between.state next →
          LinkState.Path .disconnected
            (events.flatMap Event.edges ++ [(between.state, next)]) next := by
        intro next edge
        obtain same | ended := standing
        · rw [same] at edge ⊢
          exact path.snoc edge
        · rw [ended] at edge
          exact absurd edge LinkState.not_edge_terminated
      have silent : more.flatMap Event.edges = [] →
          LinkState.Path .disconnected
            (events.flatMap Event.edges ++ more.flatMap Event.edges) last := by
        intro none
        rw [none, List.append_nil]
        exact path
      cases latest with
      | aside notLink may =>
          refine ⟨last, silent ?_, standing⟩
          rw [List.flatMap_singleton, Event.edges_of_not_isLink notLink]
      | setOut => exact ⟨_, follow .connecting trivial, .inl rfl⟩
      | ask may attempt => exact ⟨last, silent rfl, standing⟩
      | accepted may attempt => exact ⟨_, follow .connected trivial, .inl rfl⟩
      | refused may attempt delay => exact ⟨_, follow .backoff trivial, .inl rfl⟩
      | retry delay => exact ⟨_, follow .connecting trivial, .inl rfl⟩
      | giveUp may => exact ⟨_, follow .terminated trivial, .inl rfl⟩
      | giveUpWaiting may delay => exact ⟨_, follow .terminated trivial, .inl rfl⟩
      | give may stream snapshot => exact ⟨last, silent rfl, standing⟩
      | taken may stream snapshot => exact ⟨last, silent rfl, standing⟩
      | broken may stream snapshot =>
          exact ⟨_, follow .disconnected trivial, .inl rfl⟩
      | abandon may stream snapshot => exact ⟨last, silent rfl, standing⟩
      | close may stream => exact ⟨last, silent rfl, .inr rfl⟩
      | closed => exact ⟨last, silent rfl, .inr rfl⟩
      | leave may notConnected => exact ⟨last, silent rfl, .inr rfl⟩

end Delivery

/-! ## The gauge -/

/-- The gauge of open streams after an event. -/
def Event.gauge (before : Int) : Event → Int
  | .moved _ target => if target = .connected then 1 else 0
  | .unlinked => 0
  | _ => before

theorem Event.gauge_of_not_isLink {event : Event} (notLink : event.isLink = false)
    (before : Int) : event.gauge before = before := by
  cases event <;> first | rfl | cases notLink

/-- The gauge goes by the events that are about the link. -/
theorem Metrics.relayConnected_foldl (metrics : Metrics) (events : List Event) :
    ((events.flatMap Event.measurements).foldl record metrics).relayConnected =
      events.foldl Event.gauge metrics.relayConnected := by
  induction events generalizing metrics with
  | nil => rfl
  | cons event later ih =>
      have once : (event.measurements.foldl record metrics).relayConnected =
          event.gauge metrics.relayConnected := by
        cases event with
        | moved origin target => cases target <;> rfl
        | _ => rfl
      rw [List.flatMap_cons, List.foldl_append, ih, once]
      rfl

theorem Journal.relayConnected_eq (journal : Journal) :
    journal.metrics.relayConnected = journal.events.foldl Event.gauge 0 :=
  Metrics.relayConnected_foldl {} journal.events

namespace Delivery

variable {allowed : List Dealing} {origin target : Standing} {events : List Event}

/-- The gauge shows whether the link is connected, except while a stream is closing. -/
theorem Trail.gauge_eq (trail : Trail allowed (.link .disconnected) events target)
    (notClosing : target ≠ .closing) :
    events.foldl Event.gauge 0 = if target.state = .connected then 1 else 0 := by
  induction trail with
  | rest => rfl
  | @step events more between target _ latest ih =>
      rw [List.foldl_append]
      cases latest with
      | aside notLink may =>
          rw [ih notClosing, List.foldl_cons, List.foldl_nil, Event.gauge_of_not_isLink notLink]
      | ask may attempt => exact ih notClosing
      | give may stream snapshot => exact ih (by nofun)
      | taken may stream snapshot => exact ih notClosing
      | abandon may stream snapshot => exact ih notClosing
      | close may stream => exact absurd rfl notClosing
      | _ => rfl

/-! ## What does not happen -/

/-- A terminated link stays so: nothing is asked for or given any more. -/
theorem Trail.terminated (trail : Trail allowed origin events target)
    (ended : origin.state = .terminated) :
    target.state = .terminated ∧ ∀ event ∈ events, event.isLink → event = .unlinked := by
  induction trail with
  | rest => exact ⟨ended, List.forall_mem_nil _⟩
  | step _ latest ih =>
      obtain ⟨still, earlier⟩ := ih
      have unlinked : ∀ event ∈ [Event.unlinked], event.isLink → event = .unlinked :=
        List.forall_mem_singleton.mpr fun _ => rfl
      cases latest with
      | aside notLink may =>
          refine ⟨still, List.forall_mem_append.mpr ⟨earlier, ?_⟩⟩
          rw [List.forall_mem_singleton, notLink]
          nofun
      | closed => exact ⟨rfl, List.forall_mem_append.mpr ⟨earlier, unlinked⟩⟩
      | leave may notConnected =>
          exact ⟨rfl, List.forall_mem_append.mpr ⟨earlier, unlinked⟩⟩
      | _ => cases still

/-- Nothing but ending delivery terminates a link. -/
theorem Trail.not_terminated (trail : Trail allowed origin events target)
    (goesOn : .quit ∉ allowed) (running : origin.state ≠ .terminated) :
    target.state ≠ .terminated := by
  induction trail with
  | rest => exact running
  | step _ latest ih =>
      cases latest with
      | aside notLink may => exact ih
      | giveUp may => exact absurd may goesOn
      | giveUpWaiting may delay => exact absurd may goesOn
      | close may stream => exact absurd may goesOn
      | leave may notConnected => exact absurd may goesOn
      | closed => exact absurd rfl ih
      | _ => nofun

/-- What holds of all events in the pieces of a trail holds of all its events. -/
theorem Trail.forall_mem (trail : Trail allowed origin events target) (holds : Event → Prop)
    (piece : ∀ {between target : Standing} {more : List Event},
      Leads allowed between more target → ∀ event ∈ more, holds event) :
    ∀ event ∈ events, holds event := by
  induction trail with
  | rest => exact List.forall_mem_nil _
  | step _ latest ih => exact List.forall_mem_append.mpr ⟨ih, piece latest⟩

/-- Nothing is asked for or given away without a request. -/
theorem Trail.unrequested (trail : Trail allowed origin events target)
    (noRequest : .request ∉ allowed) : ∀ event ∈ events, event.isRequest = false := by
  apply trail.forall_mem (·.isRequest = false)
  intro between target more latest
  cases latest with
  | aside notLink may =>
      exact List.forall_mem_singleton.mpr (Event.not_isRequest_of_not_isLink notLink)
  | ask may attempt => exact absurd may noRequest
  | give may stream snapshot => exact absurd may noRequest
  | _ => simp [Event.isRequest]

theorem Trail.unreported (trail : Trail allowed origin events target)
    (noReport : .report ∉ allowed) : ∀ event ∈ events, event.isReport = false := by
  apply trail.forall_mem (·.isReport = false)
  intro between target more latest
  cases latest with
  | aside notLink may => exact List.forall_mem_singleton.mpr (may.resolve_right noReport)
  | _ => simp [Event.isReport]

/-- Unless the relay answers, a stream that is open stays so until it is told to close. -/
theorem Trail.closes_add (trail : Trail allowed origin events target)
    (noAnswer : .answer ∉ allowed) :
    events.countP Event.isClosing + (if target.state = .connected then 1 else 0) =
      if origin.state = .connected then 1 else 0 := by
  induction trail with
  | rest => exact Nat.zero_add _
  | step _ latest ih =>
      rw [List.countP_append, ← ih]
      cases latest with
      | @aside standing event notLink may =>
          rw [List.countP_singleton, Event.not_isClosing_of_not_isLink notLink]
          rfl
      | accepted may attempt => exact absurd may noAnswer
      | refused may attempt delay => exact absurd may noAnswer
      | taken may stream snapshot => exact absurd may noAnswer
      | broken may stream snapshot => exact absurd may noAnswer
      | @leave may held notConnected =>
          have none : (Standing.link held).state ≠ .connected := notConnected
          rw [if_neg none]
          rfl
      | _ => rfl

end Delivery

end NodeTelemetry
