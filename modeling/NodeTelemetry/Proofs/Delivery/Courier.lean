/-
# Couriers leave trails

Each function of a courier adds a trail to the journal, with the dealings that the
function has: it asks and gives only while delivery goes on, hears an answer only when
it is told of one, and ends delivery only when it was called off or shut down. The
state of the link always fits what the courier waits for or has to do next.
-/

import NodeTelemetry.Collection.Collector
import NodeTelemetry.Proofs.Delivery.Trail

namespace NodeTelemetry

open Delivery

namespace Hub

/-- What a hub has gone through, as far as its journal tells: a trail. -/
def Passage (allowed : List Dealing) (before : Hub) (origin : Standing) (after : Hub)
    (target : Standing) : Prop :=
  ∃ events, after.journal.events = before.journal.events ++ events ∧
    Trail allowed origin events target

variable {allowed others : List Dealing} {hub before between after : Hub}
  {origin middle target : Standing} {event : Event}

namespace Passage

/-- Nothing was written down. -/
theorem of_eq (same : after.journal = before.journal) :
    Passage allowed before origin after origin :=
  ⟨[], by rw [same, List.append_nil], .rest⟩

theorem refl (hub : Hub) (origin : Standing) : Passage allowed hub origin hub origin :=
  .of_eq rfl

theorem trans (earlier : Passage allowed before origin between middle)
    (later : Passage allowed between middle after target) :
    Passage allowed before origin after target := by
  obtain ⟨events, hevents, trail⟩ := earlier
  obtain ⟨more, hmore, onward⟩ := later
  refine ⟨events ++ more, ?_, trail.trans onward⟩
  rw [hmore, hevents, List.append_assoc]

theorem mono (passage : Passage allowed before origin after target) (wider : allowed ⊆ others) :
    Passage others before origin after target := by
  obtain ⟨events, hevents, trail⟩ := passage
  exact ⟨events, hevents, trail.mono wider⟩

end Passage

theorem events_note (hub : Hub) (event : Event) :
    (hub.note event).journal.events = hub.journal.events ++ [event] := by
  simp [note, Journal.events]

theorem passage_note (latest : Leads allowed origin [event] target) :
    Passage allowed hub origin (hub.note event) target :=
  ⟨[event], hub.events_note event, .single latest⟩

/-- Two events that belong together. -/
theorem passage_note_note {first : Event} (latest : Leads allowed origin [first, event] target) :
    Passage allowed hub origin ((hub.note first).note event) target := by
  refine ⟨[first, event], ?_, .single latest⟩
  rw [events_note, events_note, List.append_assoc]
  rfl

/-- What is not about the link and no report may always be written down. -/
theorem passage_aside (notLink : event.isLink = false) (noReport : event.isReport = false) :
    Passage allowed hub origin (hub.note event) origin :=
  passage_note (.aside notLink (.inl noReport))

theorem passage_append (notLink : event.isLink = false) (noReport : event.isReport = false)
    (snapshot : Snapshot) : Passage allowed hub origin (hub.append event snapshot) origin := by
  have noted : Passage allowed hub origin (hub.note event) origin :=
    passage_aside notLink noReport
  unfold append
  obtain ⟨evicted, backlog⟩ := hub.backlog.add snapshot
  have added : Passage allowed hub origin { hub.note event with backlog } origin :=
    noted.trans (.of_eq rfl)
  cases evicted with
  | none => exact added
  | some lost => exact added.trans (passage_aside rfl rfl)

theorem passage_offer (snapshot : Snapshot) :
    Passage allowed hub origin (hub.offer snapshot).2 origin := by
  have noted : Passage allowed hub origin (hub.note (.arrived snapshot)) origin :=
    passage_aside rfl rfl
  unfold offer
  obtain ⟨evicted, backlog⟩ := hub.backlog.add snapshot
  have added : Passage allowed hub origin { hub.note (.arrived snapshot) with backlog } origin :=
    noted.trans (.of_eq rfl)
  cases evicted with
  | none => exact added
  | some lost => exact added.trans (passage_aside rfl rfl)

theorem passage_offerAll (snapshots : List Snapshot) :
    Passage allowed hub origin (hub.offerAll snapshots) origin := by
  induction snapshots generalizing hub with
  | nil => exact .refl hub origin
  | cons snapshot later ih => exact (passage_offer snapshot).trans ih

theorem passage_take : Passage allowed hub origin hub.take.2 origin := by
  unfold take
  obtain ⟨popped, backlog⟩ := hub.backlog.pop
  cases popped with
  | none => exact .of_eq rfl
  | some snapshot =>
      have noted : Passage allowed hub origin (hub.note (.taken snapshot)) origin :=
        passage_aside rfl rfl
      exact noted.trans (.of_eq rfl)

theorem passage_record (findings : Collection.Findings) (elapsed : Nat) :
    Passage allowed hub origin (Collection.record findings elapsed hub) origin := by
  have faulted : ∀ (faults : List Fault) (hub : Hub), Passage allowed hub origin
      (faults.foldl (fun hub fault => hub.note (.faulted fault)) hub) origin := by
    intro faults
    induction faults with
    | nil => exact fun hub => .refl hub origin
    | cons fault later ih => exact fun hub => (passage_aside rfl rfl).trans (ih _)
  have arrived : ∀ hub : Hub, Passage allowed hub origin
      (hub.append (.arrived findings.snapshot) findings.snapshot) origin :=
    fun hub => passage_append rfl rfl findings.snapshot
  exact ((faulted findings.faults hub).trans (arrived _)).trans (passage_aside rfl rfl)

theorem passage_putBack (snapshot : Snapshot) :
    Passage allowed hub origin (hub.putBack snapshot) origin := by
  unfold putBack
  cases hub.backlog.requeue? snapshot with
  | some backlog => exact .of_eq rfl
  | none => exact passage_aside rfl rfl

end Hub

/-- The states in which no call is running. -/
def LinkState.resting : List LinkState := [.disconnected, .connected, .terminated]

/-- The states in which no call is running and another one may deliver. -/
def LinkState.running : List LinkState := [.disconnected, .connected]

theorem LinkState.running_subset : running ⊆ resting :=
  List.cons_subset_cons _ (List.cons_subset_cons _ (List.nil_subset _))

theorem LinkState.mem_running {state : LinkState} (rests : state ∈ resting)
    (notTerminated : state ≠ terminated) : state ∈ running := by
  cases state with
  | terminated => exact absurd rfl notTerminated
  | _ => revert rests; decide

theorem LinkState.connected_mem_resting : connected ∈ resting := .tail _ (.head _)

theorem LinkState.terminated_mem_resting : terminated ∈ resting := .tail _ (.tail _ (.head _))

namespace Delivery

theorem Link.exists_stream {held : Link} (connected : held.state = .connected) :
    ∃ stream, held = .connected stream := by
  cases held with
  | connected stream => exact ⟨stream, rfl⟩
  | _ => cases connected

theorem Link.eq_connecting {held : Link} (connecting : held.state = .connecting) :
    held = .connecting := by
  cases held with
  | connecting => rfl
  | _ => cases connecting

theorem Link.exists_delay {held : Link} (backingOff : held.state = .backoff) :
    ∃ delay, held = .backoff delay := by
  cases held with
  | backoff delay => exact ⟨delay, rfl⟩
  | _ => cases backingOff

theorem Link.eq_terminated {held : Link} (terminated : held.state = .terminated) :
    held = .terminated := by
  cases held with
  | terminated => rfl
  | _ => cases terminated

/-- How it stands with a link while a call is where it is. -/
def Progress.standing (held : Link) : Progress → Standing
  | .waiting .closing => .closing
  | _ => .link held

/-- The states of the link that fit what a call is doing. -/
def Progress.states : Progress → List LinkState
  | .working (.drain _) => [.connected]
  | .working (.putBack ..) => LinkState.running
  | .working (.keep _) => LinkState.resting
  | .waiting (.opening _) => [.connecting]
  | .waiting (.backingOff ..) => [.backoff]
  | .waiting (.sending ..) => [.connected]
  | .waiting .closing => [.terminated]
  | .returned _ => LinkState.resting

/-- What a call may deal with when it goes on by itself. -/
def begun (cancelled : Bool) : List Dealing := if cancelled then [.quit] else [.request]

/-- What the end of a wait brings. -/
def Signal.dealings : Signal → List Dealing
  | .cancelled => [.quit]
  | _ => [.answer]

namespace Courier

open Hub (Passage)

/-- What a step that begins with this hub comes to: a trail, and a link that fits. -/
structure Leaves (allowed : List Dealing) (hub : Hub) (origin : Standing)
    (result : Courier × Progress) : Prop where
  passage : Passage allowed hub origin result.1.hub (result.2.standing result.1.link)
  fits : result.1.link.state ∈ result.2.states

variable {allowed others : List Dealing} {hub : Hub} {origin : Standing} {courier : Courier}
  {result : Courier × Progress} {cancelled : Bool}

theorem Leaves.after {before : Hub} {start : Standing}
    (leaves : Leaves allowed hub origin result)
    (earlier : Passage allowed before start hub origin) : Leaves allowed before start result :=
  ⟨earlier.trans leaves.passage, leaves.fits⟩

theorem Leaves.mono (leaves : Leaves allowed hub origin result) (wider : allowed ⊆ others) :
    Leaves others hub origin result :=
  ⟨leaves.passage.mono wider, leaves.fits⟩

/-! ## Tasks -/

theorem leaves_giveUp {held : Link} (link : courier.link = held)
    (rests : held.state ∈ LinkState.resting) (fresh : Option Snapshot) :
    Leaves allowed courier.hub (.link held) (courier.giveUp fresh) := by
  subst link
  cases fresh with
  | none => exact ⟨.refl _ _, rests⟩
  | some snapshot => exact ⟨.refl _ _, rests⟩

theorem leaves_endTurn {held : Link} (link : courier.link = held)
    (rests : held.state ∈ LinkState.resting) (turn : Turn) :
    Leaves allowed courier.hub (.link held) (courier.endTurn turn) := by
  cases turn with
  | backlog fresh => exact leaves_giveUp link rests fresh
  | fresh =>
      subst link
      exact ⟨.refl _ _, rests⟩

variable {stream : Stream}

theorem leaves_send (link : courier.link = .connected stream) (snapshot : Snapshot)
    (turn : Turn) :
    Leaves [.request] courier.hub (.link (.connected stream)) (courier.send snapshot turn) := by
  unfold send
  rw [link]
  exact ⟨Hub.passage_note (.give (List.mem_singleton_self _) stream snapshot),
    List.mem_singleton_self _⟩

/-- A courier whose link is connected sends, unless delivery was called off. -/
theorem leaves_drain (link : courier.link = .connected stream) (fresh : Option Snapshot) :
    Leaves (begun cancelled) courier.hub (.link (.connected stream))
      (courier.drain cancelled fresh) := by
  unfold drain
  cases cancelled with
  | true => exact leaves_giveUp link LinkState.connected_mem_resting fresh
  | false =>
      simp only [Bool.false_eq_true, if_false]
      obtain ⟨oldest, backlog⟩ := courier.hub.backlog.pop
      cases oldest with
      | some snapshot =>
          have popped : Passage [.request] courier.hub (.link (.connected stream))
              { courier.hub with backlog } (.link (.connected stream)) :=
            .of_eq rfl
          have sent := @leaves_send { courier with hub := { courier.hub with backlog } } stream
            link snapshot (.backlog fresh)
          exact sent.after popped
      | none =>
          cases fresh with
          | some snapshot => exact leaves_send link snapshot .fresh
          | none =>
              rw [← link]
              refine ⟨.refl _ _, ?_⟩
              rw [link]
              exact LinkState.connected_mem_resting

theorem leaves_perform {task : Task} (fits : courier.link.state ∈ (Progress.working task).states) :
    Leaves (begun cancelled) courier.hub (.link courier.link)
      (courier.perform cancelled task) := by
  cases task with
  | drain fresh =>
      obtain ⟨stream, link⟩ := Link.exists_stream (List.mem_singleton.mp fits)
      rw [link]
      exact leaves_drain link fresh
  | putBack snapshot turn =>
      have rests : courier.link.state ∈ LinkState.resting := LinkState.running_subset fits
      have ended := @leaves_endTurn (begun cancelled) (courier.putBack snapshot) _ rfl rests turn
      exact ended.after (Hub.passage_putBack snapshot)
  | keep snapshot => exact ⟨Hub.passage_append rfl rfl snapshot, fits⟩

theorem leaves_proceed (link : courier.link = .connected stream) (call : Call) :
    Leaves allowed courier.hub (.link (.connected stream)) (courier.proceed call) := by
  have connected : courier.link.state = .connected := congrArg Link.state link
  have rests : courier.link.state ∈ LinkState.resting := by
    rw [connected]
    exact LinkState.connected_mem_resting
  rw [← link]
  cases call with
  | tick fresh => exact ⟨.refl _ _, List.mem_singleton.mpr connected⟩
  | connect => exact ⟨.refl _ _, rests⟩
  | shutdown => exact ⟨.refl _ _, rests⟩

/-! ## Connecting -/

/-- A link that is being connected is ended by calling delivery off. -/
theorem leaves_terminate {held : Link} (link : courier.link = held)
    (leads : Leads [.quit] (.link held) [.moved held.state .terminated] (.link .terminated))
    (call : Call) : Leaves [.quit] courier.hub (.link held) (courier.terminate call) := by
  subst link
  have ended := @leaves_giveUp [.quit] (courier.move .terminated) .terminated rfl
    LinkState.terminated_mem_resting call.fresh
  exact ended.after (Hub.passage_note leads)

theorem leaves_attempt (link : courier.link = .connecting) (call : Call) :
    Leaves (begun cancelled) courier.hub (.link .connecting)
      (courier.attempt cancelled call) := by
  have counted : ∀ {allowed}, Passage allowed courier.hub (.link .connecting)
      (courier.note .attempted).hub (.link .connecting) :=
    Hub.passage_aside rfl rfl
  unfold attempt
  cases cancelled with
  | true =>
      have gone := @leaves_terminate (courier.note .attempted) .connecting link
        (.giveUp (List.mem_singleton_self _)) call
      exact gone.after counted
  | false =>
      have asked : Leaves [.request] (courier.note .attempted).hub (.link .connecting)
          ({ (courier.note .attempted).note (.opening (courier.attempts + 1)) with
              attempts := courier.attempts + 1 }, .waiting (.opening call)) := by
        rw [← link]
        refine ⟨Hub.passage_note ?_, ?_⟩
        · change Leads _ (.link courier.link) _ (.link courier.link)
          rw [link]
          exact .ask (List.mem_singleton_self _) _
        · change courier.link.state ∈ _
          rw [link]
          exact List.mem_singleton_self _
      exact asked.after counted

theorem leaves_pause {delay : Duration} (link : courier.link = .backoff delay) (call : Call) :
    Leaves (begun cancelled) courier.hub (.link (.backoff delay))
      (courier.pause cancelled delay call) := by
  unfold pause
  cases cancelled with
  | true => exact leaves_terminate link (.giveUpWaiting (List.mem_singleton_self _) delay) call
  | false =>
      rw [← link]
      refine ⟨.refl _ _, ?_⟩
      change courier.link.state ∈ _
      rw [link]
      exact List.mem_singleton_self _

/-- A link that sets out, or tries again, asks for a stream next. -/
theorem leaves_move_attempt {held : Link} (link : courier.link = held)
    (leads : Leads (begun cancelled) (.link held) [.moved held.state .connecting]
      (.link .connecting)) (call : Call) :
    Leaves (begun cancelled) courier.hub (.link held)
      ((courier.move .connecting).attempt cancelled call) := by
  subst link
  exact (leaves_attempt rfl call).after (Hub.passage_note leads)

theorem leaves_connect (call : Call) :
    Leaves (begun cancelled) courier.hub (.link courier.link)
      (courier.connect cancelled call) := by
  unfold connect
  cases link : courier.link with
  | connected stream => exact leaves_proceed link call
  | terminated => exact leaves_giveUp link LinkState.terminated_mem_resting call.fresh
  | disconnected => exact leaves_move_attempt link .setOut call
  | connecting => exact leaves_attempt link call
  | backoff delay => exact leaves_pause link call

theorem leaves_close : Leaves [.quit] courier.hub (.link courier.link) courier.close := by
  unfold close
  cases link : courier.link with
  | connected stream =>
      exact ⟨Hub.passage_note (.close (List.mem_singleton_self _) stream),
        List.mem_singleton_self _⟩
  | _ =>
      refine ⟨Hub.passage_note (.leave (List.mem_singleton_self _) ?_),
        LinkState.terminated_mem_resting⟩
      nofun

/-! ## Whole steps -/

end Courier

/-- What a call may deal with when it begins: shutting down ends delivery. -/
def Call.dealings (cancelled : Bool) : Call → List Dealing
  | .shutdown => .quit :: begun cancelled
  | _ => begun cancelled

/-- What a call may deal with when its wait ends. -/
def resumed (cancelled : Bool) (signal : Signal) : List Dealing :=
  signal.dealings ++ begun cancelled

namespace Courier

open Hub (Passage)

variable {courier : Courier} {cancelled : Bool} {signal : Signal} {stream : Stream}

theorem leaves_start (call : Call) :
    Leaves (call.dealings cancelled) courier.hub (.link courier.link)
      (courier.start cancelled call) := by
  cases call with
  | connect => exact leaves_connect .connect
  | shutdown => exact leaves_close.mono (List.cons_subset_cons _ (List.nil_subset _))
  | tick fresh =>
      cases fresh with
      | none => exact leaves_connect (.tick none)
      | some snapshot =>
          have handedOver : Passage (begun cancelled) courier.hub (.link courier.link)
              (courier.note (.handedOver snapshot)).hub (.link courier.link) :=
            Hub.passage_aside rfl rfl
          exact (leaves_connect (.tick (some snapshot))).after handedOver

theorem leaves_answered (link : courier.link = .connecting) (call : Call) :
    Leaves (resumed cancelled signal) courier.hub (.link .connecting)
      (courier.answered cancelled signal call) := by
  cases signal with
  | cancelled =>
      have ended := leaves_terminate link (.giveUp (List.mem_singleton_self _)) call
      exact ended.mono (List.subset_append_left ..)
  | done =>
      have opened : Passage (resumed cancelled .done) courier.hub (.link .connecting)
          ((courier.hub.note (.opened courier.attempts)).note
            (.moved courier.link.state .connected))
          (.link (.connected ⟨courier.attempts, 0⟩)) := by
        rw [link]
        exact Hub.passage_note_note (.accepted (.head _) courier.attempts)
      exact (leaves_proceed rfl call).after opened
  | failed =>
      have refused : Passage (resumed cancelled .failed) courier.hub (.link .connecting)
          ((courier.hub.note (.refused courier.attempts)).note
            (.moved courier.link.state .backoff))
          (.link (.backoff courier.backoff.nextDelay)) := by
        rw [link]
        exact Hub.passage_note_note (.refused (.head _) courier.attempts courier.backoff.nextDelay)
      have paused := @leaves_pause
        (Courier.move (.backoff courier.backoff.nextDelay)
          { courier.note (.refused courier.attempts) with backoff := courier.backoff.advance })
        cancelled _ rfl call
      exact (paused.mono (List.subset_append_right _ _)).after refused

theorem leaves_settled (link : courier.link = .connected stream) (snapshot : Snapshot)
    (turn : Turn) :
    Leaves (resumed cancelled signal) courier.hub (.link (.connected stream))
      (courier.settled signal snapshot turn) := by
  have stays : ∀ event, Leads (resumed cancelled signal) (.link (.connected stream)) [event]
      (.link (.connected stream)) →
      Passage (resumed cancelled signal) courier.hub (.link (.connected stream))
        (courier.note event).hub (.link (courier.note event).link) := by
    intro event leads
    change Passage _ _ _ _ (.link courier.link)
    rw [link]
    exact Hub.passage_note leads
  have connected : ∀ event, (courier.note event).link.state = .connected := by
    intro event
    change courier.link.state = _
    rw [link]
    rfl
  have rests : ∀ event, (courier.note event).link.state ∈ LinkState.resting := by
    intro event
    rw [connected]
    exact LinkState.connected_mem_resting
  unfold settled
  simp only [link]
  cases signal with
  | cancelled =>
      refine ⟨stays _ (.abandon (.head _) stream snapshot), .tail _ ?_⟩
      exact List.mem_singleton.mpr (connected _)
  | done =>
      have sent := stays _ (.taken (.head _) stream snapshot)
      cases turn with
      | backlog fresh => exact ⟨sent, List.mem_singleton.mpr (connected _)⟩
      | fresh => exact ⟨sent, rests _⟩
  | failed =>
      refine ⟨?_, .head _⟩
      change Passage _ _ _ ((courier.hub.note (.sendFailed stream.attempt snapshot)).note
        (.moved courier.link.state .disconnected)) _
      rw [link]
      exact Hub.passage_note_note (.broken (.head _) stream snapshot)

theorem leaves_closed {allowed : List Dealing}
    (fits : courier.link.state ∈ (Progress.waiting .closing).states) :
    Leaves allowed courier.hub .closing (courier.note .unlinked, .returned true) := by
  have link := Link.eq_terminated (List.mem_singleton.mp fits)
  refine ⟨?_, ?_⟩
  · change Passage _ _ .closing _ (.link courier.link)
    rw [link]
    exact Hub.passage_note .closed
  · change courier.link.state ∈ _
    rw [link]
    exact LinkState.terminated_mem_resting

theorem leaves_resume {wait : Wait} (fits : courier.link.state ∈ (Progress.waiting wait).states) :
    Leaves (resumed cancelled signal) courier.hub
      ((Progress.waiting wait).standing courier.link)
      (courier.resume cancelled signal wait) := by
  cases wait with
  | opening call =>
      have link := Link.eq_connecting (List.mem_singleton.mp fits)
      rw [link]
      exact leaves_answered link call
  | backingOff delay call =>
      obtain ⟨held, link⟩ := Link.exists_delay (List.mem_singleton.mp fits)
      have again : Leaves (begun cancelled) courier.hub (.link (.backoff held))
          ((courier.move .connecting).attempt cancelled call) :=
        leaves_move_attempt link (.retry held) call
      rw [link]
      cases signal with
      | cancelled =>
          have ended := leaves_terminate link (.giveUpWaiting (List.mem_singleton_self _) held) call
          exact ended.mono (List.subset_append_left ..)
      | done => exact again.mono (List.subset_append_right ..)
      | failed => exact again.mono (List.subset_append_right ..)
  | sending snapshot turn =>
      obtain ⟨stream, link⟩ := Link.exists_stream (List.mem_singleton.mp fits)
      rw [link]
      exact leaves_settled link snapshot turn
  | closing => exact leaves_closed fits

/-- Doing the task that comes next, if one does. -/
theorem leaves_work {result : Courier × Progress} (fits : result.1.link.state ∈ result.2.states) :
    Leaves (begun cancelled) result.1.hub (result.2.standing result.1.link)
      (work cancelled result) := by
  obtain ⟨courier, progress⟩ := result
  cases progress with
  | working task => exact leaves_perform fits
  | waiting wait => exact ⟨.refl _ _, fits⟩
  | returned success => exact ⟨.refl _ _, fits⟩

theorem Leaves.settle {allowed : List Dealing} {hub : Hub} {origin : Standing}
    {result : Courier × Progress} (leaves : Leaves allowed hub origin result)
    (goesOn : begun cancelled ⊆ allowed) :
    Leaves allowed hub origin (Courier.settle cancelled result) := by
  have worked : ∀ {result : Courier × Progress}, Leaves allowed hub origin result →
      Leaves allowed hub origin (work cancelled result) :=
    fun leaves => ((leaves_work leaves.fits).mono goesOn).after leaves.passage
  exact worked (worked (worked leaves))

end Courier

end Delivery

end NodeTelemetry
