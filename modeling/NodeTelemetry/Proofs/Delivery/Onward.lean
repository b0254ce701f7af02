/-
# What delivery leaves alone

A courier takes no time for what it does between two waits, and a deliverer lets the clock
advance no further than to the moment at which it goes on, which has never passed already.
Neither of them reports on anything but the link. So whatever a deliverer does, a collector
beside it finds the clock no later than the collector is due, and the health registry as it
was in everything that is not about the relay.
-/

import NodeTelemetry.Proofs.Delivery.Reconnecting

namespace NodeTelemetry

open Delivery

/-- Whether nothing but the link is reported on by an event. -/
def Event.aboutLink (event : Event) : Bool :=
  event.reports.all fun
    | .link .. => true
    | _ => false

namespace Hub

/-- A hub goes on, but its clock not beyond a moment, and nothing but the link is reported
on. -/
structure Onward (moment : Nat) (before after : Hub) : Prop where
  epoch : after.epoch = before.epoch
  later : before.now ≤ after.now
  timely : after.now ≤ max before.now moment
  journal : ∃ entries : Journal, after.journal = before.journal ++ entries ∧
    ∀ entry ∈ entries, entry.2.aboutLink = true

namespace Onward

variable {moment : Nat} {before hub after : Hub} {event : Event}

theorem refl (hub : Hub) : Onward moment hub hub :=
  ⟨rfl, Nat.le_refl _, Nat.le_max_left _ _, [], (List.append_nil _).symm,
    List.forall_mem_nil _⟩

theorem trans (earlier : Onward moment before hub) (later : Onward moment hub after) :
    Onward moment before after := by
  obtain ⟨entries, hentries, about⟩ := earlier.journal
  obtain ⟨more, hmore, aboutMore⟩ := later.journal
  refine ⟨later.epoch.trans earlier.epoch, Nat.le_trans earlier.later later.later, ?_,
    entries ++ more, ?_, List.forall_mem_append.mpr ⟨about, aboutMore⟩⟩
  · have timely := earlier.timely
    have timelyLater := later.timely
    omega
  · rw [hmore, hentries, List.append_assoc]

/-- Only the backlog changes. -/
theorem withBacklog (earlier : Onward moment before hub) (backlog : Backlog Snapshot) :
    Onward moment before { hub with backlog } :=
  ⟨earlier.epoch, earlier.later, earlier.timely, earlier.journal⟩

theorem note (earlier : Onward moment before hub) (about : event.aboutLink = true) :
    Onward moment before (hub.note event) :=
  earlier.trans ⟨rfl, Nat.le_refl _, Nat.le_max_left _ _, [(hub.now, event)], rfl,
    List.forall_mem_singleton.mpr about⟩

theorem waitUntil (earlier : Onward moment before hub) {till : Nat} (soon : till ≤ moment) :
    Onward moment before (hub.waitUntil till) := by
  refine earlier.trans ⟨rfl, Nat.le_max_left _ _, ?_, [], (List.append_nil _).symm,
    List.forall_mem_nil _⟩
  exact max_le_max_left hub.now soon

theorem append (earlier : Onward moment before hub) (about : event.aboutLink = true)
    (snapshot : Snapshot) : Onward moment before (hub.append event snapshot) := by
  unfold Hub.append
  obtain ⟨evicted, backlog⟩ := hub.backlog.add snapshot
  have added := (earlier.note about).withBacklog backlog
  cases evicted with
  | none => exact added
  | some lost => exact added.note rfl

theorem offer (earlier : Onward moment before hub) (snapshot : Snapshot) :
    Onward moment before (hub.offer snapshot).2 := by
  unfold Hub.offer
  obtain ⟨evicted, backlog⟩ := hub.backlog.add snapshot
  have noted : Onward moment before (hub.note (.arrived snapshot)) := earlier.note rfl
  have added := noted.withBacklog backlog
  cases evicted with
  | none => exact added
  | some lost => exact added.note rfl

theorem offerAll (earlier : Onward moment before hub) (snapshots : List Snapshot) :
    Onward moment before (hub.offerAll snapshots) := by
  induction snapshots generalizing hub with
  | nil => exact earlier
  | cons snapshot later ih => exact ih (earlier.offer snapshot)

theorem take (earlier : Onward moment before hub) : Onward moment before hub.take.2 := by
  unfold Hub.take
  obtain ⟨popped, backlog⟩ := hub.backlog.pop
  cases popped with
  | none => exact earlier.withBacklog backlog
  | some snapshot =>
      have noted : Onward moment before (hub.note (.taken snapshot)) := earlier.note rfl
      exact noted.withBacklog backlog

theorem putBack (earlier : Onward moment before hub) (snapshot : Snapshot) :
    Onward moment before (hub.putBack snapshot) := by
  unfold Hub.putBack
  cases hub.backlog.requeue? snapshot with
  | some backlog => exact earlier.withBacklog backlog
  | none => exact earlier.note rfl

end Onward

end Hub

namespace Delivery

open Hub (Onward)

/-! ## Couriers -/

namespace Courier

variable {courier : Courier} {cancelled : Bool} {moment : Nat} {before : Hub} {event : Event}
  {result : Courier × Progress}

theorem onward_note (earlier : Onward moment before courier.hub)
    (about : event.aboutLink = true) : Onward moment before (courier.note event).hub :=
  earlier.note about

theorem onward_move (earlier : Onward moment before courier.hub) (target : Link) :
    Onward moment before (courier.move target).hub :=
  onward_note earlier rfl

theorem onward_giveUp (earlier : Onward moment before courier.hub) (fresh : Option Snapshot) :
    Onward moment before (courier.giveUp fresh).1.hub := by
  cases fresh <;> exact earlier

theorem onward_send (earlier : Onward moment before courier.hub) (snapshot : Snapshot)
    (turn : Turn) : Onward moment before (courier.send snapshot turn).1.hub := by
  unfold send
  cases courier.link with
  | connected stream => exact onward_note earlier rfl
  | _ => exact earlier

theorem onward_drain (earlier : Onward moment before courier.hub) (fresh : Option Snapshot) :
    Onward moment before (courier.drain cancelled fresh).1.hub := by
  unfold drain
  split
  · exact onward_giveUp earlier fresh
  · obtain ⟨oldest, backlog⟩ := courier.hub.backlog.pop
    cases oldest with
    | some snapshot => exact onward_send (earlier.withBacklog backlog) snapshot _
    | none =>
        cases fresh with
        | some snapshot => exact onward_send earlier snapshot _
        | none => exact earlier

theorem onward_perform (earlier : Onward moment before courier.hub) (task : Task) :
    Onward moment before (courier.perform cancelled task).1.hub := by
  cases task with
  | drain fresh => exact onward_drain earlier fresh
  | putBack snapshot turn =>
      have returned : Onward moment before (courier.putBack snapshot).hub :=
        earlier.putBack snapshot
      cases turn with
      | backlog fresh => exact onward_giveUp returned fresh
      | fresh => exact returned
  | keep snapshot => exact earlier.append rfl snapshot

theorem onward_work (earlier : Onward moment before result.1.hub) :
    Onward moment before (work cancelled result).1.hub := by
  obtain ⟨courier, progress⟩ := result
  cases progress with
  | working task => exact onward_perform earlier task
  | _ => exact earlier

theorem onward_settle (earlier : Onward moment before result.1.hub) :
    Onward moment before (settle cancelled result).1.hub :=
  onward_work (onward_work (onward_work earlier))

theorem onward_proceed (earlier : Onward moment before courier.hub) (call : Call) :
    Onward moment before (courier.proceed call).1.hub := by
  cases call <;> exact earlier

theorem onward_terminate (earlier : Onward moment before courier.hub) (call : Call) :
    Onward moment before (courier.terminate call).1.hub :=
  onward_giveUp (onward_move earlier .terminated) call.fresh

theorem onward_attempt (earlier : Onward moment before courier.hub) (call : Call) :
    Onward moment before (courier.attempt cancelled call).1.hub := by
  have counted : Onward moment before (courier.note .attempted).hub := onward_note earlier rfl
  unfold attempt
  cases cancelled with
  | true => exact onward_terminate counted call
  | false => exact onward_note counted rfl

theorem onward_pause (earlier : Onward moment before courier.hub) (delay : Duration)
    (call : Call) : Onward moment before (courier.pause cancelled delay call).1.hub := by
  unfold pause
  cases cancelled with
  | true => exact onward_terminate earlier call
  | false => exact earlier

theorem onward_connect (earlier : Onward moment before courier.hub) (call : Call) :
    Onward moment before (courier.connect cancelled call).1.hub := by
  unfold connect
  cases courier.link with
  | connected stream => exact onward_proceed earlier call
  | terminated => exact onward_giveUp earlier call.fresh
  | disconnected => exact onward_attempt (onward_move earlier .connecting) call
  | connecting => exact onward_attempt earlier call
  | backoff delay => exact onward_pause earlier delay call

theorem onward_close (earlier : Onward moment before courier.hub) :
    Onward moment before courier.close.1.hub := by
  unfold close
  cases courier.link <;> exact earlier.note rfl

theorem onward_start (earlier : Onward moment before courier.hub) (call : Call) :
    Onward moment before (courier.start cancelled call).1.hub := by
  cases call with
  | connect => exact onward_connect earlier _
  | tick fresh =>
      cases fresh with
      | none => exact onward_connect earlier _
      | some snapshot => exact onward_connect (onward_note earlier rfl) _
  | shutdown => exact onward_close earlier

theorem onward_answered (earlier : Onward moment before courier.hub) (signal : Signal)
    (call : Call) : Onward moment before (courier.answered cancelled signal call).1.hub := by
  cases signal with
  | cancelled => exact onward_terminate earlier call
  | done =>
      have opened : Onward moment before
          { courier.note (.opened courier.attempts) with backoff := courier.backoff.reset }.hub :=
        earlier.note rfl
      exact onward_proceed (onward_move opened _) call
  | failed =>
      have refused : Onward moment before
          { courier.note (.refused courier.attempts) with
            backoff := courier.backoff.advance }.hub :=
        earlier.note rfl
      exact onward_pause (onward_move refused _) _ call

theorem onward_settled (earlier : Onward moment before courier.hub) (signal : Signal)
    (snapshot : Snapshot) (turn : Turn) :
    Onward moment before (courier.settled signal snapshot turn).1.hub := by
  unfold settled
  cases signal with
  | done => cases turn <;> exact onward_note earlier rfl
  | failed => exact onward_move (onward_note earlier rfl) .disconnected
  | cancelled => exact onward_note earlier rfl

theorem onward_resume (earlier : Onward moment before courier.hub) (signal : Signal)
    (wait : Wait) : Onward moment before (courier.resume cancelled signal wait).1.hub := by
  cases wait with
  | opening call => exact onward_answered earlier signal call
  | backingOff delay call =>
      cases signal with
      | cancelled => exact onward_terminate earlier call
      | _ => exact onward_attempt (onward_move earlier .connecting) call
  | sending snapshot turn => exact onward_settled earlier signal snapshot turn
  | closing => exact onward_note earlier rfl

end Courier

/-! ## Sessions -/

namespace Session

variable {peer : Peer} {session : Session} {before : Hub} {result : Courier × Progress}
  {moment : Nat}

theorem onward_absorb (earlier : Onward moment before result.1.hub) :
    Onward moment before (session.absorb peer result).hub :=
  Courier.onward_settle earlier

theorem onward_start (earlier : Onward moment before session.hub) (call : Call) :
    Onward moment before (session.start peer call).hub :=
  onward_absorb (Courier.onward_start earlier call)

/-- A session goes on at once if it is interrupted, and otherwise when its wait ends. -/
theorem mem_dueAt? : moment ∈ session.dueAt? ↔ ∃ pending, session.pending = some pending ∧
    (session.interrupted pending = true ∧ session.now = moment ∨
      session.interrupted pending = false ∧ pending.due = some moment) := by
  unfold dueAt?
  cases session.pending with
  | none => simp
  | some pending => cases interrupted : session.interrupted pending <;> simp [interrupted]

/-- A session takes no longer than to the moment at which it goes on. -/
theorem onward_step (goesOn : moment ∈ session.dueAt?) :
    Onward moment session.hub (session.step peer).hub := by
  have resting : Onward moment session.hub session.hub := .refl _
  obtain ⟨pending, waits, ⟨interrupted, -⟩ | ⟨uninterrupted, ends⟩⟩ := mem_dueAt?.mp goesOn
  · rw [step_of_interrupted waits interrupted]
    exact onward_absorb (Courier.onward_resume resting .cancelled pending.wait)
  · rw [step_of_due waits uninterrupted ends]
    have arrived := (resting.waitUntil (Nat.le_refl moment)).offerAll pending.arrivals
    exact onward_absorb (Courier.onward_resume arrived pending.signal pending.wait)

/-- The moment at which the session goes on has not passed. -/
def Punctual (session : Session) : Prop := ∀ moment ∈ session.dueAt?, session.now ≤ moment

/-- No wait ends before it begins. -/
theorem le_due_schedule {courier : Courier} {wait : Wait}
    (ends : (schedule peer courier wait).due = some moment) : courier.hub.now ≤ moment := by
  have due : ∃ after : Option Nat,
      (schedule peer courier wait).due = after.map (courier.hub.now + ·) := by
    cases wait with
    | opening call => exact ⟨_, rfl⟩
    | backingOff delay call => exact ⟨some delay.nanos, rfl⟩
    | sending snapshot turn =>
        unfold schedule
        cases courier.link with
        | connected stream => exact ⟨_, rfl⟩
        | _ => exact ⟨some 0, rfl⟩
    | closing => exact ⟨_, rfl⟩
  obtain ⟨after, due⟩ := due
  obtain ⟨delay, -, rfl⟩ := Option.map_eq_some_iff.mp (due.symm.trans ends)
  exact Nat.le_add_right _ _

theorem punctual_absorb (result : Courier × Progress) :
    (session.absorb peer result).Punctual := by
  intro moment goesOn
  unfold dueAt? absorb at goesOn
  cases waits : (Courier.settle session.cancelled result).2.wait? with
  | none => simp [waits] at goesOn
  | some wait =>
      simp only [waits, Option.map_some] at goesOn
      split at goesOn
      · exact Nat.le_of_eq (Option.some.inj goesOn)
      · exact le_due_schedule goesOn

/-- Whenever a session has gone on, it goes on at a moment to come. -/
theorem punctual_step : (session.step peer).Punctual := by
  cases waits : session.pending with
  | none =>
      rw [step_of_free waits]
      intro moment goesOn
      obtain ⟨pending, stillWaits, -⟩ := mem_dueAt?.mp goesOn
      cases waits.symm.trans stillWaits
  | some pending =>
      cases interrupted : session.interrupted pending with
      | true =>
          rw [step_of_interrupted waits interrupted]
          exact punctual_absorb _
      | false =>
          cases ends : pending.due with
          | some due =>
              rw [step_of_due waits interrupted ends]
              exact punctual_absorb _
          | none =>
              rw [step_of_never waits interrupted ends]
              intro moment goesOn
              obtain ⟨paused, stillWaits, ⟨interrupts, -⟩ | ⟨-, stillEnds⟩⟩ :=
                mem_dueAt?.mp goesOn
              · obtain rfl := Option.some.inj (waits.symm.trans stillWaits)
                cases interrupted.symm.trans interrupts
              · obtain rfl := Option.some.inj (waits.symm.trans stillWaits)
                cases ends.symm.trans stillEnds

/-- The hub may change as long as the clock does not get past that moment. -/
theorem punctual_modifyHub {change : Hub → Hub}
    (timely : ∀ moment ∈ session.dueAt?, (change session.hub).now ≤ moment) :
    (session.modifyHub change).Punctual := by
  intro moment goesOn
  obtain ⟨pending, waits, ⟨-, now⟩ | ⟨uninterrupted, ends⟩⟩ := mem_dueAt?.mp goesOn
  · exact Nat.le_of_eq now
  · exact timely moment (mem_dueAt?.mpr ⟨pending, waits, .inr ⟨uninterrupted, ends⟩⟩)

theorem Punctual.cancel (punctual : session.Punctual) : session.cancel.Punctual := by
  intro moment goesOn
  obtain ⟨pending, waits, ⟨-, now⟩ | ⟨uninterrupted, ends⟩⟩ := mem_dueAt?.mp goesOn
  · exact Nat.le_of_eq now
  · have before : session.interrupted pending = false := by
      cases cancelled : session.cancelled with
      | false => simp [interrupted, cancelled]
      | true => simpa [interrupted, cancelled, Session.cancel] using uninterrupted
    exact punctual moment (mem_dueAt?.mpr ⟨pending, waits, .inr ⟨before, ends⟩⟩)

end Session

/-! ## Deliverers -/

namespace Deliverer

variable {plan : Plan} {session : Session} {deliverer : Deliverer} {before : Hub}
  {moment : Nat}

theorem onward_stop (earlier : Onward moment before session.hub) :
    Onward moment before (deliverer.stop plan session).1.hub :=
  Session.onward_start earlier .shutdown

theorem onward_conclude (earlier : Onward moment before session.hub) :
    Onward moment before (deliverer.conclude plan session).1.hub := by
  have surveyed : Onward moment before (survey session).hub := earlier.note rfl
  unfold conclude
  split
  · exact earlier
  · simp only
    split
    · exact onward_stop surveyed
    · exact surveyed

/-- A deliverer takes no longer than to the moment at which it goes on. -/
theorem onward_step (goesOn : moment ∈ deliverer.dueAt? session) :
    Onward moment session.hub (deliverer.step plan session).1.hub := by
  have resting : Onward moment session.hub session.hub := .refl _
  unfold dueAt? at goesOn
  unfold step
  cases phase : deliverer.phase with
  | stopped => exact resting
  | idle =>
      simp only [phase] at goesOn ⊢
      split
      · split
        · exact onward_conclude (Session.onward_start resting _)
        · exact onward_stop resting
      · rename_i uncancelled
        rw [if_neg uncancelled] at goesOn
        have notLater : deliverer.ticker.due ≤ moment :=
          Nat.le_trans (Nat.le_max_right _ _) (Nat.le_of_eq (Option.some.inj goesOn))
        have waited : Onward moment session.hub
            (session.modifyHub (·.waitUntil deliverer.ticker.due)).hub :=
          resting.waitUntil notLater
        exact onward_conclude (Session.onward_start waited _)
  | delivering =>
      simp only [phase] at goesOn ⊢
      exact onward_conclude (Session.onward_step goesOn)
  | stopping =>
      simp only [phase] at goesOn ⊢
      exact Session.onward_step goesOn

/-- The moment at which the deliverer goes on has not passed. -/
def Punctual (result : Session × Deliverer) : Prop :=
  ∀ moment ∈ result.2.dueAt? result.1, result.1.now ≤ moment

theorem punctual_idle (idle : deliverer.phase = .idle) : Punctual (session, deliverer) := by
  intro moment goesOn
  simp only [dueAt?, idle] at goesOn
  split at goesOn
  · exact Nat.le_of_eq (Option.some.inj goesOn)
  · exact Nat.le_trans (Nat.le_max_left _ _) (Nat.le_of_eq (Option.some.inj goesOn))

theorem punctual_stopped (stopped : deliverer.phase = .stopped) :
    Punctual (session, deliverer) := by
  intro moment goesOn
  simp [dueAt?, stopped] at goesOn

/-- A deliverer with a call running goes on when its session does. -/
theorem punctual_of_session (punctual : session.Punctual) : Punctual (session, deliverer) := by
  cases phase : deliverer.phase with
  | stopped => exact punctual_stopped phase
  | idle => exact punctual_idle phase
  | _ =>
      intro moment goesOn
      simp only [dueAt?, phase] at goesOn
      exact punctual moment goesOn

theorem punctual_stop : Punctual (deliverer.stop plan session) :=
  punctual_of_session (Session.punctual_absorb _)

theorem punctual_conclude (punctual : session.Punctual) :
    Punctual (deliverer.conclude plan session) := by
  unfold conclude
  split
  · exact punctual_of_session punctual
  · simp only
    split
    · exact punctual_stop
    · exact punctual_idle rfl

/-- Whenever a deliverer has gone on, it goes on at a moment to come. -/
theorem punctual_step : Punctual (deliverer.step plan session) := by
  unfold step
  cases phase : deliverer.phase with
  | stopped => exact punctual_stopped phase
  | idle =>
      simp only
      split
      · split
        · exact punctual_conclude (Session.punctual_absorb _)
        · exact punctual_stop
      · exact punctual_conclude (Session.punctual_absorb _)
  | delivering => exact punctual_conclude Session.punctual_step
  | stopping => exact punctual_of_session Session.punctual_step

/-- The hub may change as long as the clock does not get past that moment. -/
theorem punctual_modifyHub {change : Hub → Hub}
    (timely : ∀ moment ∈ deliverer.dueAt? session, (change session.hub).now ≤ moment) :
    Punctual (session.modifyHub change, deliverer) := by
  cases phase : deliverer.phase with
  | stopped => exact punctual_stopped phase
  | idle => exact punctual_idle phase
  | _ =>
      simp only [dueAt?, phase] at timely
      exact punctual_of_session (Session.punctual_modifyHub timely)

theorem Punctual.cancel (punctual : Punctual (session, deliverer)) :
    Punctual (session.cancel, deliverer) := by
  cases phase : deliverer.phase with
  | stopped => exact punctual_stopped phase
  | idle => exact punctual_idle phase
  | _ =>
      simp only [Punctual, dueAt?, phase] at punctual
      exact punctual_of_session (Session.Punctual.cancel punctual)

end Deliverer

end Delivery

/-! ## Agents -/

namespace Agent

open Hub (Onward)

variable {plan : Plan} {origin agent next : Agent} {limit : Option Nat} {moment : Nat}

theorem onward_stepDeliverer (goesOn : moment ∈ agent.deliverer.dueAt? agent.session) :
    Onward moment agent.hub (agent.stepDeliverer plan).hub :=
  Deliverer.onward_step goesOn

/-- What others do takes no time. -/
theorem onward_intervene (intervention : Intervention) :
    Onward moment agent.hub (agent.intervene intervention).2.hub := by
  have resting : Onward moment agent.hub agent.hub := .refl _
  cases intervention with
  | add snapshots => exact resting.offerAll snapshots
  | take => exact resting.take
  | _ => exact resting

/-- The moment at which the deliverer goes on has not passed. -/
def Punctual (agent : Agent) : Prop := Deliverer.Punctual (agent.session, agent.deliverer)

theorem punctual_modifyHub {change : Hub → Hub}
    (timely : ∀ moment ∈ agent.deliverer.dueAt? agent.session,
      (change agent.hub).now ≤ moment) :
    (agent.modifyHub change).Punctual :=
  Deliverer.punctual_modifyHub timely

theorem Punctual.step (punctual : agent.Punctual) (step : agent.step? plan limit = some next) :
    next.Punctual := by
  obtain rfl | ⟨rfl, moment, goesOn, first⟩ := step?_first step
  · exact Deliverer.punctual_step
  · apply @punctual_modifyHub agent fun _ => (agent.stepCollector plan).hub
    intro due delivering
    have onTime : agent.hub.now ≤ due := punctual due delivering
    have timely := @now_stepCollector plan agent moment goesOn
    exact Nat.le_trans timely (Nat.max_le.mpr ⟨onTime, first due delivering⟩)

theorem Punctual.wait (punctual : agent.Punctual)
    (rests : agent.step? plan (some moment) = none) :
    (agent.modifyHub (·.waitUntil moment)).Punctual := by
  apply punctual_modifyHub
  intro due delivering
  have notBefore := (not_before_of_step? rests).1
  rw [delivering] at notBefore
  have notSooner : ¬due < moment := of_decide_eq_false notBefore
  exact Nat.max_le.mpr ⟨punctual due delivering, Nat.not_lt.mp notSooner⟩

theorem Punctual.intervene (punctual : agent.Punctual) (intervention : Intervention) :
    (agent.intervene intervention).2.Punctual := by
  cases intervention with
  | nothing => exact punctual
  | add snapshots =>
      apply punctual_modifyHub
      intro due delivering
      rw [Hub.now_offerAll]
      exact punctual due delivering
  | take =>
      apply @punctual_modifyHub agent fun _ => agent.hub.take.2
      intro due delivering
      rw [Hub.now_take]
      exact punctual due delivering
  | cancel => exact Deliverer.Punctual.cancel punctual

theorem punctual_start (courier : Courier) (collecting delivering : Option Nat) :
    (start courier collecting delivering).Punctual := by
  cases delivering with
  | none => exact Deliverer.punctual_stopped rfl
  | some interval => exact Deliverer.punctual_idle rfl

/-- In a course, no deliverer is ever late. -/
theorem Course.punctual (course : Course plan origin agent) (start : origin.Punctual) :
    agent.Punctual := by
  induction course with
  | start => exact start
  | step course goesOn ih => exact ih.step goesOn
  | wait course moment rests ih => exact ih.wait rests
  | intervene course intervention ih => exact ih.intervene intervention

end Agent

end NodeTelemetry
