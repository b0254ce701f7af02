/-
# The diagram of link states

Whatever a courier is asked to do, and however its waits end, the link goes along the
edges of its state diagram, and the log, the gauge and the state tell the same story.
Ending delivery is final: nothing leads out of a terminated link, and what is handed
over after that waits in the backlog.
-/

import NodeTelemetry.Proofs.Delivery.Courier
import NodeTelemetry.Proofs.Traffic.Basic

namespace NodeTelemetry

open Delivery

/-- The changes of the link's state that were logged, in order. -/
def Journal.transitions (journal : Journal) : List (LinkState × LinkState) :=
  journal.notices.filterMap Log.Notice.edge?

theorem Journal.transitions_eq (journal : Journal) :
    journal.transitions = journal.events.flatMap Event.edges :=
  List.filterMap_flatMap

namespace Traffic

variable {origin traffic next : Traffic} {act : Act}

def state (traffic : Traffic) : LinkState := traffic.courier.state

/-- How it stands with the link. -/
def standing (traffic : Traffic) : Standing := traffic.progress.standing traffic.courier.link

/-- The link is in a state that fits what the call is doing. -/
def Fits (traffic : Traffic) : Prop := traffic.state ∈ traffic.progress.states

/-- All dealings there are. -/
def dealings : List Dealing := [.request, .answer, .quit, .report]

theorem subset_dealings (allowed : List Dealing) : allowed ⊆ dealings := by
  intro dealing _
  cases dealing <;> decide

/-- An act adds a trail to the journal and leaves the link in a state that fits. -/
theorem passage_step (fits : traffic.Fits) (step : Step traffic act next) :
    Hub.Passage dealings traffic.hub traffic.standing next.hub next.standing ∧ next.Fits := by
  have stepped : ∀ {courier : Courier} {origin : Standing} {result : Courier × Progress}
      {allowed : List Dealing}, Courier.Leaves allowed courier.hub origin result →
      Hub.Passage dealings courier.hub origin (of result).hub (of result).standing ∧
        (of result).Fits :=
    fun leaves => ⟨leaves.passage.mono (subset_dealings _), leaves.fits⟩
  cases step with
  | call cancelled call => exact stepped (Courier.leaves_start call)
  | work cancelled => exact stepped (Courier.leaves_perform fits)
  | answer cancelled signal => exact stepped (Courier.leaves_resume fits)
  | record findings elapsed => exact ⟨Hub.passage_record findings elapsed, fits⟩
  | offer snapshot => exact ⟨Hub.passage_offer snapshot, fits⟩
  | @remark _ event isRemark =>
      refine ⟨Hub.passage_note (.aside ?_ (.inr (by decide))), fits⟩
      cases event <;> first | rfl | cases isRemark
  | pass moment => exact ⟨.of_eq rfl, fits⟩

namespace Run

theorem passage (run : Run origin traffic) (fits : origin.Fits) :
    Hub.Passage dealings origin.hub origin.standing traffic.hub traffic.standing ∧
      traffic.Fits := by
  induction run with
  | start => exact ⟨.refl _ _, fits⟩
  | extend run act step ih =>
      obtain ⟨earlier, fits⟩ := ih
      obtain ⟨latest, fits⟩ := passage_step fits step
      exact ⟨earlier.trans latest, fits⟩

variable {epoch : Int64} {capacity : Nat} {backoff : Backoff}

theorem fits_initial : (initial epoch capacity backoff).Fits := .head _

/-- The journal of a run from the beginning is one trail. -/
theorem trail (run : Run (initial epoch capacity backoff) traffic) :
    Trail dealings (.link .disconnected) traffic.journal.events traffic.standing := by
  obtain ⟨events, hevents, trail⟩ := (run.passage fits_initial).1
  have fresh : (initial epoch capacity backoff).hub.journal.events = [] := rfl
  rw [fresh, List.nil_append] at hevents
  change Trail dealings _ traffic.hub.journal.events _
  rw [hevents]
  exact trail

end Run

/-! ## After the end -/

/-- The youngest waiting snapshot when a task has kept one. -/
def keeping (traffic : Traffic) (act : Act) : List Snapshot :=
  match act, traffic.progress with
  | .work cancelled, .working (.keep snapshot) =>
    (traffic.courier.perform cancelled (.keep snapshot)).1.hub.backlog.toList.getLast?.toList
  | _, _ => []

/-- What is kept is the youngest waiting snapshot. -/
theorem keeping_keep (courier : Courier) (cancelled : Bool) (snapshot : Snapshot) :
    (Traffic.mk courier (.working (.keep snapshot))).keeping (.work cancelled) = [snapshot] := by
  have waiting : (courier.hub.append (.kept snapshot) snapshot).backlog =
      (courier.hub.backlog.add snapshot).2 := by
    unfold Hub.append
    obtain ⟨evicted, backlog⟩ := courier.hub.backlog.add snapshot
    cases evicted <;> rfl
  change (courier.hub.append (.kept snapshot) snapshot).backlog.toList.getLast?.toList = _
  rw [waiting, Backlog.toList_add, List.getLast?_concat, Option.toList_some]

/-- Delivery was ended. -/
structure Ended (traffic : Traffic) : Prop where
  state : traffic.state = .terminated
  fits : traffic.Fits

theorem state_standing (fits : traffic.Fits) : traffic.standing.state = traffic.state := by
  obtain ⟨courier, progress⟩ := traffic
  cases progress with
  | waiting wait =>
      cases wait with
      | closing => exact (List.mem_singleton.mp fits).symm
      | _ => rfl
  | _ => rfl

theorem waits_of_closing (closing : traffic.standing = .closing) :
    traffic.progress = .waiting .closing := by
  obtain ⟨courier, progress⟩ := traffic
  cases progress with
  | waiting wait =>
      cases wait with
      | closing => rfl
      | _ => cases closing
  | _ => cases closing

namespace Ended

/-- A terminated link stays so, whatever is done from then on. -/
theorem after (ended : traffic.Ended)
    (onward : Hub.Passage dealings traffic.hub traffic.standing next.hub next.standing)
    (fits : next.Fits) :
    next.Ended ∧ ∃ events, next.journal.events = traffic.journal.events ++ events ∧
      ∀ event ∈ events, event.isLink → event = .unlinked := by
  obtain ⟨events, hevents, trail⟩ := onward
  have terminated : traffic.standing.state = .terminated :=
    (state_standing ended.fits).trans ended.state
  obtain ⟨still, quiet⟩ := trail.terminated terminated
  exact ⟨⟨(state_standing fits).symm.trans still, fits⟩, events, hevents, quiet⟩

/-- A call to a terminated courier only holds on to the fresh snapshot. -/
theorem fresh_start {courier : Courier} (terminated : courier.link = .terminated)
    (cancelled : Bool) (call : Call) :
    (courier.start cancelled call).2.fresh? = call.fresh := by
  have connect : ∀ {courier : Courier}, courier.link = .terminated → ∀ call : Call,
      (courier.connect cancelled call).2.fresh? = call.fresh := by
    intro courier terminated call
    unfold Courier.connect
    rw [terminated]
    change (courier.giveUp call.fresh).2.fresh? = call.fresh
    cases call.fresh <;> rfl
  cases call with
  | connect => exact connect terminated .connect
  | tick fresh =>
      cases fresh with
      | none => exact connect terminated (.tick none)
      | some snapshot =>
          exact @connect (courier.note (.handedOver snapshot)) terminated (.tick (some snapshot))
  | shutdown =>
      change courier.close.2.fresh? = none
      unfold Courier.close
      rw [terminated]
      rfl

/-- What a call takes along and does not hold any more, it has kept. -/
theorem kept_step (ended : traffic.Ended) (step : Step traffic act next) :
    traffic.progress.fresh?.toList ++ traffic.handing act =
      traffic.keeping act ++ next.progress.fresh?.toList := by
  obtain ⟨terminated, fits⟩ := ended
  -- The link fits neither draining nor putting back, and no wait but for closing.
  have misfit : ∀ states : List LinkState, .terminated ∉ states → traffic.state ∉ states := by
    intro states unlisted
    rw [terminated]
    exact unlisted
  cases step with
  | call cancelled call =>
      have held := fresh_start (Link.eq_terminated terminated) cancelled call
      exact congrArg Option.toList held.symm
  | @work courier task cancelled =>
      cases task with
      | drain fresh => exact absurd fits (misfit [.connected] (by decide))
      | putBack snapshot turn => exact absurd fits (misfit LinkState.running (by decide))
      | keep snapshot =>
          rw [keeping_keep]
          rfl
  | @answer courier wait cancelled signal =>
      cases wait with
      | opening call => exact absurd fits (misfit [.connecting] (by decide))
      | backingOff delay call => exact absurd fits (misfit [.backoff] (by decide))
      | sending snapshot turn => exact absurd fits (misfit [.connected] (by decide))
      | closing => rfl
  | record findings elapsed => exact List.append_nil _
  | offer snapshot => exact List.append_nil _
  | remark isRemark => exact List.append_nil _
  | pass moment => exact List.append_nil _

end Ended

namespace Run

/-- All fresh snapshots that come with calls after the end go to the backlog, but for the
one that the latest call still holds. -/
theorem kept (later : Run traffic next) (ended : traffic.Ended) :
    traffic.progress.fresh?.toList ++ later.collect handing =
      later.collect keeping ++ next.progress.fresh?.toList := by
  induction later with
  | start => exact List.append_nil _
  | @extend before next later act step ih =>
      obtain ⟨onward, fits⟩ := later.passage ended.fits
      have kept := (ended.after onward fits).1.kept_step step
      change _ ++ (later.collect handing ++ before.handing act) =
        (later.collect keeping ++ before.keeping act) ++ _
      rw [← List.append_assoc, ih, List.append_assoc, kept, List.append_assoc]

end Run

/-! ## The diagram -/

/-- What later acts can do once delivery was ended. -/
structure Run.AfterEnd (later : Run traffic next) : Prop where
  /-- The link stays terminated. -/
  state : next.state = .terminated
  /-- Nothing happens to it any more: no stream is asked for, and none is given a snapshot. -/
  quiet : ∃ events, next.journal.events = traffic.journal.events ++ events ∧
    ∀ event ∈ events, event.isLink → event = .unlinked
  /-- Fresh snapshots go to the end of the backlog in the order in which they came, but
  for one that is still in hand. -/
  kept : traffic.progress.fresh?.toList ++ later.collect handing =
    later.collect keeping ++ next.progress.fresh?.toList

/-- What the state diagram of the link promises. -/
structure FollowsDiagram (traffic : Traffic) : Prop where
  /-- The logged changes are a path through the diagram from its beginning. It has led to
  the state that the link is in, unless the link was shut down. -/
  path : ∃ last, LinkState.Path .disconnected traffic.journal.transitions last ∧
    (traffic.state = last ∨ traffic.state = .terminated)
  /-- Only a running call leaves the link in between. -/
  rests : ∀ success, traffic.progress = .returned success →
    traffic.state ∈ [.disconnected, .connected, .terminated]
  gauge : traffic.progress ≠ .waiting .closing →
    (traffic.journal.metrics.relayConnected = 1 ↔ traffic.state = .connected)
  ends : traffic.state = .terminated → ∀ {next} (later : Run traffic next), later.AfterEnd

namespace Run

variable {epoch : Int64} {capacity : Nat} {backoff : Backoff}

/-- Whatever is done, the link follows its state diagram. -/
theorem follows_diagram (run : Run (initial epoch capacity backoff) traffic) :
    traffic.FollowsDiagram := by
  have fits := (run.passage fits_initial).2
  have sameState := state_standing fits
  refine ⟨?_, ?_, ?_, ?_⟩
  · rw [Journal.transitions_eq, ← sameState]
    exact run.trail.exists_path
  · intro success returned
    unfold Fits at fits
    rw [returned] at fits
    exact fits
  · intro notClosing
    have notYet : traffic.standing ≠ .closing :=
      fun closing => notClosing (waits_of_closing closing)
    rw [Journal.relayConnected_eq, run.trail.gauge_eq notYet, sameState]
    split <;> simp [*]
  · intro terminated next later
    have ended : traffic.Ended := ⟨terminated, fits⟩
    obtain ⟨onward, fits⟩ := later.passage ended.fits
    obtain ⟨still, quiet⟩ := ended.after onward fits
    exact ⟨still.state, quiet, later.kept ended⟩

end Run

end Traffic

end NodeTelemetry
