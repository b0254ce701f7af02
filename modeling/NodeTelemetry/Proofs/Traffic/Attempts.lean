/-
# Attempts and requests

An attempt to get a stream is counted first, and only then is the relay asked, unless
delivery was called off meanwhile. So the counter of attempts is ahead of the requests by
the attempts that were forestalled in this way. There is one of them at most, since
calling off ends the link; as long as there is none, the counter tells the requests.

Counting and asking are found in one place, so every other function of a courier leaves
the tries in the journal as they are.
-/

import NodeTelemetry.Proofs.Traffic.Diagram
import NodeTelemetry.Proofs.Traffic.Ticks

namespace NodeTelemetry

open Delivery

/-! ## Tries -/

/-- Whether an event is about a try to get a stream: that it is counted, or that the relay
is asked. -/
def Event.isTry : Event → Bool
  | .attempted | .opening _ => true
  | _ => false

/-- Whether the relay is asked for a stream by an event. -/
def Event.isOpening : Event → Bool
  | .opening _ => true
  | _ => false

theorem Metrics.reconnectAttempts_eq (measurements : List Measurement) :
    (ofMeasurements measurements).reconnectAttempts = measurements.count .reconnectAttempt := by
  induction measurements using List.reverseRecOn with
  | nil => rfl
  | append_singleton measurements latest ih =>
      rw [ofMeasurements_concat, List.count_append, ← ih]
      cases latest <;> rfl

namespace Journal

/-- What a journal says about tries. -/
def tries (journal : Journal) : List Event := journal.events.filter Event.isTry

variable (journal : Journal)

/-- The counter of attempts counts the tries that were counted. -/
theorem reconnectAttempts_eq :
    journal.metrics.reconnectAttempts = journal.tries.count .attempted := by
  unfold metrics tries
  rw [Metrics.reconnectAttempts_eq, List.count_filter rfl]
  induction journal.events with
  | nil => rfl
  | cons event events ih =>
      rw [List.flatMap_cons, List.count_append, ih]
      cases event <;> simp [Event.measurements, Nat.add_comm]

/-- The other tries are the requests. -/
theorem length_attemptTimes :
    journal.attemptTimes.length = journal.tries.countP Event.isOpening := by
  have alike : ∀ event : Event, (event.isOpening && event.isTry) = event.isOpening := by
    intro event
    cases event <;> rfl
  unfold attemptTimes tries events
  simp only [List.countP_filter, alike, List.countP_map]
  induction journal with
  | nil => rfl
  | cons entry later ih =>
      obtain ⟨nanos, event⟩ := entry
      cases event <;> simp [Event.isOpening, ih]

end Journal

namespace Hub

variable (hub : Hub) {event : Event}

def tries (hub : Hub) : List Event := hub.journal.tries

theorem tries_note_try (isTry : event.isTry = true) :
    (hub.note event).tries = hub.tries ++ [event] := by
  simp [tries, note, Journal.tries, Journal.events, isTry]

theorem tries_note (idle : event.isTry = false) : (hub.note event).tries = hub.tries := by
  simp [tries, note, Journal.tries, Journal.events, idle]

theorem tries_append (idle : event.isTry = false) (snapshot : Snapshot) :
    (hub.append event snapshot).tries = hub.tries := by
  unfold append
  obtain ⟨evicted, backlog⟩ := hub.backlog.add snapshot
  cases evicted with
  | none => exact hub.tries_note idle
  | some lost => exact (tries_note _ rfl).trans (hub.tries_note idle)

theorem tries_offer (snapshot : Snapshot) : (hub.offer snapshot).2.tries = hub.tries := by
  unfold offer
  obtain ⟨evicted, backlog⟩ := hub.backlog.add snapshot
  cases evicted with
  | none => exact hub.tries_note rfl
  | some lost => exact (tries_note _ rfl).trans (hub.tries_note rfl)

theorem tries_putBack (snapshot : Snapshot) : (hub.putBack snapshot).tries = hub.tries := by
  unfold putBack
  cases hub.backlog.requeue? snapshot with
  | some backlog => rfl
  | none => exact hub.tries_note rfl

theorem tries_record (findings : Collection.Findings) (elapsed : Nat) :
    (Collection.record findings elapsed hub).tries = hub.tries := by
  have faulted : ∀ (faults : List Fault) (hub : Hub),
      (faults.foldl (fun hub fault => hub.note (.faulted fault)) hub).tries = hub.tries := by
    intro faults
    induction faults with
    | nil => exact fun hub => rfl
    | cons fault later ih => exact fun hub => (ih _).trans (hub.tries_note rfl)
  have added : ∀ hub : Hub,
      (hub.append (.arrived findings.snapshot) findings.snapshot).tries = hub.tries :=
    fun hub => hub.tries_append rfl findings.snapshot
  exact (tries_note _ rfl).trans ((added _).trans (faulted findings.faults hub))

end Hub

/-! ## Couriers -/

namespace Delivery.Courier

variable (courier : Courier) (cancelled : Bool)

/-- What a courier says about its tries. -/
abbrev tries (courier : Courier) : List Event := courier.hub.tries

theorem tries_move (target : Link) : (courier.move target).tries = courier.tries :=
  courier.hub.tries_note rfl

theorem tries_giveUp (fresh : Option Snapshot) :
    (courier.giveUp fresh).1.tries = courier.tries := by
  cases fresh <;> rfl

theorem tries_send (snapshot : Snapshot) (turn : Turn) :
    (courier.send snapshot turn).1.tries = courier.tries := by
  unfold send
  cases courier.link with
  | connected stream => exact courier.hub.tries_note rfl
  | _ => rfl

theorem tries_drain (fresh : Option Snapshot) :
    (courier.drain cancelled fresh).1.tries = courier.tries := by
  unfold drain
  split
  · exact courier.tries_giveUp fresh
  · obtain ⟨oldest, backlog⟩ := courier.hub.backlog.pop
    cases oldest with
    | some snapshot =>
        exact tries_send { courier with hub := { courier.hub with backlog } } snapshot _
    | none =>
        cases fresh with
        | some snapshot => exact courier.tries_send snapshot .fresh
        | none => rfl

theorem tries_perform (task : Task) :
    (courier.perform cancelled task).1.tries = courier.tries := by
  cases task with
  | drain fresh => exact courier.tries_drain cancelled fresh
  | keep snapshot => exact courier.hub.tries_append rfl snapshot
  | putBack snapshot turn =>
      have returned := courier.hub.tries_putBack snapshot
      cases turn with
      | backlog fresh => exact (tries_giveUp _ fresh).trans returned
      | fresh => exact returned

theorem tries_proceed (call : Call) : (courier.proceed call).1.tries = courier.tries := by
  cases call <;> rfl

theorem tries_terminate (call : Call) : (courier.terminate call).1.tries = courier.tries :=
  (tries_giveUp _ call.fresh).trans (courier.tries_move .terminated)

/-- What an attempt writes down: it counts, and asks unless delivery was called off. -/
def attempting : List Event :=
  .attempted :: if cancelled then [] else [.opening (courier.attempts + 1)]

theorem tries_attempt (call : Call) :
    (courier.attempt cancelled call).1.tries =
      courier.tries ++ courier.attempting cancelled := by
  have counted := courier.hub.tries_note_try (show Event.attempted.isTry = true from rfl)
  unfold attempt attempting
  cases cancelled with
  | true => exact (tries_terminate _ call).trans counted
  | false =>
      refine ((courier.hub.note .attempted).tries_note_try rfl).trans ?_
      rw [counted, List.append_assoc]
      rfl

theorem tries_pause (delay : Duration) (call : Call) :
    (courier.pause cancelled delay call).1.tries = courier.tries := by
  cases cancelled with
  | true => exact courier.tries_terminate call
  | false => rfl

/-- Getting connected takes an attempt where the link is not connected and no delay has to
be sat out. -/
theorem tries_connect (call : Call) :
    (courier.connect cancelled call).1.tries = courier.tries ++
      if courier.state ∈ [.disconnected, .connecting] then courier.attempting cancelled
      else [] := by
  unfold connect state
  cases courier.link with
  | connected stream => exact (courier.tries_proceed call).trans (List.append_nil _).symm
  | terminated => exact (courier.tries_giveUp call.fresh).trans (List.append_nil _).symm
  | disconnected =>
      refine (tries_attempt _ cancelled call).trans ?_
      rw [tries_move]
      rfl
  | connecting => exact courier.tries_attempt cancelled call
  | backoff delay =>
      exact (courier.tries_pause cancelled delay call).trans (List.append_nil _).symm

theorem tries_close : courier.close.1.tries = courier.tries := by
  unfold close
  cases courier.link <;> exact courier.hub.tries_note rfl

theorem tries_answered (signal : Signal) (call : Call) :
    (courier.answered cancelled signal call).1.tries = courier.tries := by
  cases signal with
  | cancelled => exact courier.tries_terminate call
  | done =>
      refine (tries_proceed _ call).trans ((tries_move _ _).trans ?_)
      exact courier.hub.tries_note rfl
  | failed =>
      refine (tries_pause _ cancelled _ call).trans ((tries_move _ _).trans ?_)
      exact courier.hub.tries_note rfl

theorem tries_settled (signal : Signal) (snapshot : Snapshot) (turn : Turn) :
    (courier.settled signal snapshot turn).1.tries = courier.tries := by
  unfold settled
  cases signal with
  | cancelled => exact courier.hub.tries_note rfl
  | done => cases turn <;> exact courier.hub.tries_note rfl
  | failed => exact (tries_move _ .disconnected).trans (courier.hub.tries_note rfl)

/-- An attempt that delivery was called off before ends the link. -/
theorem link_attempt (call : Call) : (courier.attempt true call).1.link = .terminated := by
  change ((courier.note .attempted).terminate call).1.link = _
  unfold terminate giveUp
  cases call.fresh <;> rfl

/-- So does a call that finds the link disconnected. -/
theorem link_start (disconnected : courier.state = .disconnected) {call : Call}
    (begins : call ≠ .shutdown) : (courier.start true call).1.link = .terminated := by
  have connect : ∀ (courier : Courier) (call : Call), courier.state = .disconnected →
      (courier.connect true call).1.link = .terminated := by
    intro courier call disconnected
    unfold connect
    cases link : courier.link with
    | disconnected => exact link_attempt _ call
    | _ =>
        rw [state, link] at disconnected
        cases disconnected
  cases call with
  | connect => exact connect courier .connect disconnected
  | shutdown => exact absurd rfl begins
  | tick fresh =>
      cases fresh with
      | none => exact connect courier (.tick none) disconnected
      | some snapshot => exact connect (courier.note (.handedOver snapshot)) _ disconnected

end Delivery.Courier

/-! ## Acts -/

namespace Traffic

variable {origin traffic next : Traffic} {act : Act}

/-- Whether an act comes to an attempt: a call that finds the link disconnected begins with
one, and the end of a delay is followed by one. -/
def comesToAttempt (traffic : Traffic) (act : Act) : Bool :=
  match act, traffic.progress with
  | .call _ call, _ => call != .shutdown && traffic.state == .disconnected
  | .answer _ signal, .waiting (.backingOff ..) => signal != .cancelled
  | _, _ => false

/-- What an act writes down about tries. -/
def trying (traffic : Traffic) (act : Act) : List Event :=
  if traffic.comesToAttempt act then traffic.courier.attempting act.calledOff else []

theorem tries_start {courier : Courier} (rests : courier.state ∈ LinkState.resting)
    (cancelled : Bool) (call : Call) :
    (courier.start cancelled call).1.tries = courier.tries ++
      if call != .shutdown && courier.state == .disconnected then courier.attempting cancelled
      else [] := by
  have connect : ∀ (courier : Courier) (call : Call), courier.state ∈ LinkState.resting →
      (courier.connect cancelled call).1.tries = courier.tries ++
        if courier.state == .disconnected then courier.attempting cancelled else [] := by
    intro courier call rests
    rw [courier.tries_connect]
    generalize courier.state = state at rests
    cases state with
    | connecting => exact absurd rests (by decide)
    | _ => rfl
  cases call with
  | connect => exact connect courier .connect rests
  | shutdown => exact courier.tries_close.trans (List.append_nil _).symm
  | tick fresh =>
      cases fresh with
      | none => exact connect courier (.tick none) rests
      | some snapshot =>
          have handedOver : (courier.note (.handedOver snapshot)).tries = courier.tries :=
            courier.hub.tries_note rfl
          have connected := connect (courier.note (.handedOver snapshot)) (.tick snapshot) rests
          rw [handedOver] at connected
          exact connected

/-- What an act writes down about tries is an attempt, if it comes to one. -/
theorem tries_step (fits : traffic.Fits) (step : Step traffic act next) :
    next.hub.tries = traffic.hub.tries ++ traffic.trying act := by
  have idle : ∀ {hub : Hub}, hub.tries = traffic.hub.tries → traffic.comesToAttempt act = false →
      hub.tries = traffic.hub.tries ++ traffic.trying act := by
    intro hub same none
    rw [same, trying, none]
    exact (List.append_nil _).symm
  cases step with
  | call cancelled call => exact tries_start fits cancelled call
  | @work courier task cancelled => exact idle (courier.tries_perform cancelled task) rfl
  | @answer courier wait cancelled signal =>
      cases wait with
      | opening call => exact idle (courier.tries_answered cancelled signal call) rfl
      | backingOff delay call =>
          have again : ((courier.move .connecting).attempt cancelled call).1.tries =
              courier.tries ++ courier.attempting cancelled := by
            rw [Courier.tries_attempt, Courier.tries_move]
            rfl
          cases signal with
          | cancelled => exact idle (courier.tries_terminate call) rfl
          | done => cases cancelled <;> exact again
          | failed => cases cancelled <;> exact again
      | sending snapshot turn => exact idle (courier.tries_settled signal snapshot turn) rfl
      | closing => exact idle (courier.hub.tries_note rfl) rfl
  | record findings elapsed => exact idle (Hub.tries_record _ findings elapsed) rfl
  | offer snapshot => exact idle (Hub.tries_offer _ snapshot) rfl
  | @remark _ event isRemark =>
      refine idle (Hub.tries_note _ ?_) rfl
      cases event <;> first | rfl | cases isRemark
  | pass moment => exact idle rfl rfl

/-! ## Forestalled attempts -/

/-- The act that comes to an attempt although delivery was called off. -/
def forestalling (traffic : Traffic) (act : Act) : List Act :=
  if traffic.comesToAttempt act && act.calledOff then [act] else []

/-- An attempt is counted, and it is a request or forestalled. -/
theorem count_trying (traffic : Traffic) (act : Act) :
    (traffic.trying act).count .attempted =
      (traffic.trying act).countP Event.isOpening + (traffic.forestalling act).length := by
  unfold trying forestalling Courier.attempting
  cases traffic.comesToAttempt act <;> cases act.calledOff <;> rfl

/-- A link that is terminated comes to no attempt. -/
theorem not_terminated_of_comesToAttempt (fits : traffic.Fits)
    (comes : traffic.comesToAttempt act = true) : traffic.state ≠ .terminated := by
  intro terminated
  unfold comesToAttempt at comes
  unfold Fits at fits
  rw [terminated] at fits comes
  split at comes
  · simp at comes
  · next waits =>
      rw [waits] at fits
      exact absurd fits (show LinkState.terminated ∉ [LinkState.backoff] by decide)
  · cases comes

/-- An act that forestalls an attempt ends the link. -/
theorem state_of_forestalled (step : Step traffic act next)
    (comes : traffic.comesToAttempt act = true) (off : act.calledOff = true) :
    next.state = .terminated := by
  cases step with
  | @call courier success cancelled call =>
      obtain ⟨begins, disconnected⟩ := Bool.and_eq_true_iff.mp comes
      cases off
      exact congrArg Link.state (courier.link_start (eq_of_beq disconnected) (bne_iff_ne.mp begins))
  | @answer courier wait cancelled signal =>
      cases wait with
      | backingOff delay call =>
          have again : ((courier.move .connecting).attempt true call).1.link = .terminated :=
            Courier.link_attempt _ call
          cases signal with
          | cancelled => cases comes
          | _ =>
              cases cancelled with
              | false => cases off
              | true => exact congrArg Link.state again
      | _ => cases comes
  | _ => cases comes

/-- A terminated link stays so. -/
theorem terminated_step (fits : traffic.Fits) (step : Step traffic act next)
    (terminated : traffic.state = .terminated) : next.state = .terminated := by
  obtain ⟨onward, fitting⟩ := passage_step fits step
  exact ((Ended.mk terminated fits).after onward fitting).1.state

namespace Run

/-- At most one attempt is forestalled, since that ends the link. -/
theorem forestalled_once (run : Run origin traffic) (fits : origin.Fits) :
    (run.collect forestalling).length ≤ 1 ∧
      (run.collect forestalling ≠ [] → traffic.state = .terminated) := by
  induction run with
  | start => exact ⟨Nat.zero_le _, fun listed => absurd rfl listed⟩
  | @extend before next run act step ih =>
      have fitting := (run.passage fits).2
      obtain ⟨once, ended⟩ := ih
      change (run.collect forestalling ++ before.forestalling act).length ≤ 1 ∧
        (run.collect forestalling ++ before.forestalling act ≠ [] → _)
      by_cases now : before.comesToAttempt act && act.calledOff
      · obtain ⟨comes, off⟩ := Bool.and_eq_true_iff.mp now
        have running := not_terminated_of_comesToAttempt fitting comes
        have none : run.collect forestalling = [] :=
          Decidable.not_not.mp fun listed => running (ended listed)
        rw [none, forestalling, if_pos now]
        exact ⟨Nat.le_refl _, fun _ => state_of_forestalled step comes off⟩
      · rw [forestalling, if_neg now, List.append_nil]
        exact ⟨once, fun listed => terminated_step fitting step (ended listed)⟩

variable {epoch : Int64} {capacity : Nat} {backoff : Backoff}

/-- The tries in the journal are what the acts have written down. -/
theorem tries_eq (run : Run origin traffic) (fits : origin.Fits) :
    traffic.hub.tries = origin.hub.tries ++ run.collect trying := by
  induction run with
  | start => exact (List.append_nil _).symm
  | extend run act step ih =>
      rw [tries_step (run.passage fits).2 step, ih, List.append_assoc]
      rfl

/-- Every counted attempt of a run is a request or forestalled. -/
theorem count_collect_trying (run : Run origin traffic) :
    (run.collect trying).count .attempted =
      (run.collect trying).countP Event.isOpening + (run.collect forestalling).length := by
  induction run with
  | start => rfl
  | @extend before _ run act _ ih =>
      have latest := count_trying before act
      simp only [collect, List.count_append, List.countP_append, List.length_append]
      omega

/-- What the counter of attempts tells about requests. -/
structure CountsAttempts (run : Run origin traffic) : Prop where
  /-- It counts the requests that were made, and the attempts that were forestalled. -/
  counted : traffic.journal.metrics.reconnectAttempts =
    traffic.journal.attemptTimes.length + (run.collect forestalling).length
  /-- It tells the number of requests exactly if no attempt was forestalled. -/
  faithful : traffic.journal.metrics.reconnectAttempts = traffic.journal.attemptTimes.length ↔
    run.collect forestalling = []
  atMostOne : (run.collect forestalling).length ≤ 1
  /-- An attempt that was forestalled was the last one. -/
  last : run.collect forestalling ≠ [] → traffic.state = .terminated

/-- Whatever is done, the counter of attempts tells the requests, but for one attempt that
was forestalled. -/
theorem counts_attempts (run : Run (initial epoch capacity backoff) traffic) :
    run.CountsAttempts := by
  obtain ⟨atMostOne, last⟩ := run.forestalled_once fits_initial
  have tries : traffic.journal.tries = run.collect trying := run.tries_eq fits_initial
  have counted : traffic.journal.metrics.reconnectAttempts =
      traffic.journal.attemptTimes.length + (run.collect forestalling).length := by
    rw [Journal.reconnectAttempts_eq, Journal.length_attemptTimes, tries]
    exact run.count_collect_trying
  refine ⟨counted, ?_, atMostOne, last⟩
  rw [counted, Nat.add_eq_left, List.length_eq_zero_iff]

/-- A run in which delivery is called off before the first call. -/
def calledOffFirst : (traffic : Traffic) × Run (initial 0 1 .standard) traffic :=
  ⟨_, Run.start |>.extend _ (.call true .connect)⟩

/-- Its one attempt is counted, and the relay was never asked. -/
theorem counted_unasked :
    ¬∀ traffic, Run (initial 0 1 .standard) traffic →
      traffic.journal.metrics.reconnectAttempts = traffic.journal.attemptTimes.length := by
  intro claimed
  have same := claimed _ calledOffFirst.2
  have counted : calledOffFirst.1.journal.metrics.reconnectAttempts = 1 := rfl
  have unasked : calledOffFirst.1.journal.attemptTimes.length = 0 := rfl
  rw [counted, unasked] at same
  cases same

end Run

end Traffic

end NodeTelemetry
