/-
# Acts as moves

Every act of traffic is one move of the cargo, and a ready one. What a courier does to
its link, its delays and the journal of its attempts leaves the cargo as it is; that is
said once for each of its functions, from the small ones to a whole step.
-/

import NodeTelemetry.Proofs.Traffic.Basic

namespace NodeTelemetry

universe u

/-- Whether an event says that a snapshot has left. -/
def Event.departs : Event → Bool
  | .sent .. | .dropped .. | .displaced _ => true
  | _ => false

namespace Hub

variable (hub : Hub) {event : Event}

@[simp]
theorem cargo_backlog : hub.cargo.backlog = hub.backlog := rfl

/-- Writing down that nothing left changes no cargo. -/
theorem cargo_note (stays : event.departs = false) : (hub.note event).cargo = hub.cargo := by
  unfold cargo note Journal.sent Journal.dropped Journal.displaced Journal.events
  cases event <;> simp_all [Event.departs]

theorem cargo_note_sent (stream : Nat) (snapshot : Snapshot) :
    (hub.note (.sent stream snapshot)).cargo =
      { hub.cargo with sent := hub.cargo.sent ++ [snapshot] } := by
  simp [cargo, note, Journal.sent, Journal.dropped, Journal.displaced, Journal.events]

theorem cargo_note_dropped (snapshot : Snapshot) (reason : Log.DropReason) :
    (hub.note (.dropped snapshot reason)).cargo =
      { hub.cargo with dropped := hub.cargo.dropped ++ [(snapshot, reason)] } := by
  simp [cargo, note, Journal.sent, Journal.dropped, Journal.displaced, Journal.events]

theorem cargo_note_displaced (snapshot : Snapshot) :
    (hub.note (.displaced snapshot)).cargo =
      { hub.cargo with displaced := hub.cargo.displaced ++ [snapshot] } := by
  simp [cargo, note, Journal.sent, Journal.dropped, Journal.displaced, Journal.events]

theorem cargo_note_on (stays : event.departs = false) (backlog : Backlog Snapshot) :
    ({ hub.note event with backlog } : Hub).cargo = { hub.cargo with backlog } := by
  exact congrArg (fun cargo : Cargo Snapshot => { cargo with backlog }) (hub.cargo_note stays)

theorem cargo_append (stays : event.departs = false) (snapshot : Snapshot) :
    (hub.append event snapshot).cargo = hub.cargo.add snapshot := by
  unfold append Cargo.add
  change _ = { hub.cargo with
    backlog := (hub.backlog.add snapshot).2
    dropped := hub.cargo.dropped ++
      (hub.backlog.add snapshot).1.toList.map (·, Log.DropReason.overwritten) }
  obtain ⟨evicted, backlog⟩ := hub.backlog.add snapshot
  cases evicted with
  | none => simpa using hub.cargo_note_on stays backlog
  | some lost => simp [cargo_note_dropped, hub.cargo_note_on stays backlog]

theorem cargo_offer (snapshot : Snapshot) :
    (hub.offer snapshot).2.cargo = hub.cargo.offer snapshot := by
  unfold offer Cargo.offer
  change _ = { hub.cargo with
    backlog := (hub.backlog.add snapshot).2
    displaced := hub.cargo.displaced ++ (hub.backlog.add snapshot).1.toList }
  have stays : (Event.arrived snapshot).departs = false := rfl
  obtain ⟨evicted, backlog⟩ := hub.backlog.add snapshot
  cases evicted with
  | none => simpa using hub.cargo_note_on stays backlog
  | some lost => simp [cargo_note_displaced, hub.cargo_note_on stays backlog]

theorem cargo_putBack (snapshot : Snapshot) :
    (hub.putBack snapshot).cargo =
      match hub.backlog.requeue? snapshot with
      | some backlog => { hub.cargo with backlog }
      | none =>
        { hub.cargo with dropped := hub.cargo.dropped ++ [(snapshot, .requeueOverflow)] } := by
  unfold putBack
  cases hub.backlog.requeue? snapshot with
  | some backlog => rfl
  | none => exact hub.cargo_note_dropped snapshot .requeueOverflow

/-- Recording a collection adds its snapshot; the faults and the summary are no cargo. -/
theorem cargo_record (findings : Collection.Findings) (elapsed : Nat) :
    (Collection.record findings elapsed hub).cargo = hub.cargo.add findings.snapshot := by
  have faulted : ∀ (faults : List Fault) (hub : Hub),
      (faults.foldl (fun hub fault => hub.note (.faulted fault)) hub).cargo = hub.cargo := by
    intro faults
    induction faults with
    | nil => exact fun hub => rfl
    | cons fault faults ih =>
        intro hub
        rw [List.foldl_cons, ih, hub.cargo_note rfl]
  simp only [Collection.record]
  rw [cargo_note _ rfl, cargo_append _ rfl, faulted]

end Hub

namespace Delivery.Courier

variable (courier : Courier)

/-- Where the cargo is after a step of a courier. -/
abbrev cargoAfter (result : Courier × Progress) : Cargo Snapshot := (Traffic.of result).cargo

theorem cargo_move (target : Link) : (courier.move target).hub.cargo = courier.hub.cargo :=
  courier.hub.cargo_note rfl

theorem cargo_giveUp (fresh : Option Snapshot) :
    cargoAfter (courier.giveUp fresh) = { courier.hub.cargo with fresh } := by
  cases fresh <;> rfl

theorem cargo_proceed (call : Call) :
    cargoAfter (courier.proceed call) = { courier.hub.cargo with fresh := call.fresh } := by
  cases call <;> rfl

theorem cargo_endTurn (turn : Turn) :
    cargoAfter (courier.endTurn turn) =
      { courier.hub.cargo with
        fresh := match turn with
          | .backlog fresh => fresh
          | .fresh => none } := by
  cases turn with
  | backlog fresh => exact courier.cargo_giveUp fresh
  | fresh => rfl

/-- A snapshot that is given to a stream is held by the call, whether the stream is open
or not. -/
theorem cargo_send (snapshot : Snapshot) (turn : Turn) :
    cargoAfter (courier.send snapshot turn) =
      { courier.hub.cargo with
        popped := turn.popped? snapshot
        fresh := turn.fresh? snapshot } := by
  unfold send
  cases courier.link with
  | connected stream =>
      have noted := courier.hub.cargo_note
        (show (Event.sending stream.attempt snapshot).departs = false from rfl)
      rw [← noted]
      rfl
  | _ => rfl

/-! ## Tasks -/

theorem cargo_drain (fresh : Option Snapshot) :
    cargoAfter (courier.drain false fresh) = ({ courier.hub.cargo with fresh }).pop := by
  simp only [drain, Cargo.pop, Hub.cargo_backlog, Bool.false_eq_true, if_false]
  obtain ⟨oldest, backlog⟩ := courier.hub.backlog.pop
  cases oldest with
  | some snapshot => exact cargo_send _ snapshot (.backlog fresh)
  | none =>
      cases fresh with
      | some snapshot => exact courier.cargo_send snapshot .fresh
      | none => rfl

/-- Putting back the snapshot in flight ends the turn in which it was sent. -/
theorem cargo_perform_putBack (cancelled : Bool) (snapshot : Snapshot) (turn : Turn) :
    cargoAfter (courier.perform cancelled (.putBack snapshot turn)) =
      ({ courier.hub.cargo with
        popped := turn.popped? snapshot
        fresh := turn.fresh? snapshot }).putBack := by
  change cargoAfter ((courier.putBack snapshot).endTurn turn) = _
  rw [cargo_endTurn]
  change ({ (courier.hub.putBack snapshot).cargo with fresh := _ } : Cargo Snapshot) = _
  rw [Hub.cargo_putBack]
  cases turn with
  | backlog fresh =>
      simp only [Cargo.putBack, Cargo.carried, Cargo.release, Turn.popped?, Turn.fresh?,
        Option.some_or, Hub.cargo_backlog]
      cases courier.hub.backlog.requeue? snapshot <;> rfl
  | fresh =>
      simp only [Cargo.putBack, Cargo.carried, Cargo.release, Turn.popped?, Turn.fresh?,
        Option.none_or, Hub.cargo_backlog]
      cases courier.hub.backlog.requeue? snapshot <;> rfl

theorem cargo_perform_keep (cancelled : Bool) (snapshot : Snapshot) :
    cargoAfter (courier.perform cancelled (.keep snapshot)) =
      ({ courier.hub.cargo with fresh := some snapshot }).keep := by
  have stays : (Event.kept snapshot).departs = false := rfl
  exact congrArg (fun cargo : Cargo Snapshot => { cargo with fresh := none })
    (courier.hub.cargo_append stays snapshot)

/-! ## Connecting -/

theorem cargo_terminate (call : Call) :
    cargoAfter (courier.terminate call) = { courier.hub.cargo with fresh := call.fresh } := by
  unfold terminate
  rw [cargo_giveUp, cargo_move]

theorem cargo_attempt (cancelled : Bool) (call : Call) :
    cargoAfter (courier.attempt cancelled call) =
      { courier.hub.cargo with fresh := call.fresh } := by
  have counted := courier.hub.cargo_note (show Event.attempted.departs = false from rfl)
  cases cancelled with
  | true =>
      rw [← counted]
      exact cargo_terminate _ call
  | false =>
      have asked := (courier.hub.note .attempted).cargo_note
        (show (Event.opening (courier.attempts + 1)).departs = false from rfl)
      rw [← counted, ← asked]
      rfl

theorem cargo_pause (cancelled : Bool) (delay : Duration) (call : Call) :
    cargoAfter (courier.pause cancelled delay call) =
      { courier.hub.cargo with fresh := call.fresh } := by
  cases cancelled with
  | true => exact courier.cargo_terminate call
  | false => rfl

theorem cargo_connect (cancelled : Bool) (call : Call) :
    cargoAfter (courier.connect cancelled call) =
      { courier.hub.cargo with fresh := call.fresh } := by
  unfold connect
  cases courier.link with
  | connected stream => exact courier.cargo_proceed call
  | terminated => exact courier.cargo_giveUp call.fresh
  | disconnected =>
      rw [← courier.cargo_move .connecting]
      exact cargo_attempt _ cancelled call
  | connecting => exact courier.cargo_attempt cancelled call
  | backoff delay => exact courier.cargo_pause cancelled delay call

theorem cargo_close : cargoAfter courier.close = courier.hub.cargo := by
  unfold close
  cases courier.link with
  | connected stream => exact courier.hub.cargo_note rfl
  | _ => exact courier.hub.cargo_note rfl

/-! ## Whole steps -/

/-- A call that begins holds the fresh snapshot that came with it, and nothing else. -/
theorem cargo_start (cancelled : Bool) (call : Call) :
    cargoAfter (courier.start cancelled call) =
      { courier.hub.cargo with fresh := call.fresh } := by
  cases call with
  | connect => exact courier.cargo_connect cancelled .connect
  | shutdown => exact courier.cargo_close
  | tick fresh =>
      cases fresh with
      | none => exact courier.cargo_connect cancelled (.tick none)
      | some snapshot =>
          have handedOver := courier.hub.cargo_note
            (show (Event.handedOver snapshot).departs = false from rfl)
          rw [← handedOver]
          exact cargo_connect _ cancelled (.tick (some snapshot))

/-- The answer to a request for a stream. -/
theorem cargo_answered (cancelled : Bool) (signal : Signal) (call : Call) :
    cargoAfter (courier.answered cancelled signal call) =
      { courier.hub.cargo with fresh := call.fresh } := by
  cases signal with
  | cancelled => exact courier.cargo_terminate call
  | done =>
      have opened := courier.hub.cargo_note
        (show (Event.opened courier.attempts).departs = false from rfl)
      unfold answered
      rw [cargo_proceed, cargo_move, ← opened]
      rfl
  | failed =>
      have refused := courier.hub.cargo_note
        (show (Event.refused courier.attempts).departs = false from rfl)
      unfold answered
      rw [cargo_pause, cargo_move, ← refused]
      rfl

/-- A send that ends well delivers the snapshot in flight. -/
theorem cargo_settled_done (snapshot : Snapshot) (turn : Turn) :
    cargoAfter (courier.settled .done snapshot turn) =
      ({ courier.hub.cargo with
        popped := turn.popped? snapshot
        fresh := turn.fresh? snapshot }).deliver := by
  have sent := fun stream => courier.hub.cargo_note_sent stream snapshot
  cases turn with
  | backlog later =>
      exact congrArg (fun cargo : Cargo Snapshot => { cargo with fresh := later }) (sent _)
  | fresh => exact sent _

/-- After any other send the snapshot stays in flight until it is put back. -/
theorem cargo_settled_of_ne_done {signal : Signal} (unsent : signal ≠ .done)
    (snapshot : Snapshot) (turn : Turn) :
    cargoAfter (courier.settled signal snapshot turn) =
      { courier.hub.cargo with
        popped := turn.popped? snapshot
        fresh := turn.fresh? snapshot } := by
  have held : ∀ hub : Hub, hub.cargo = courier.hub.cargo →
      ({ hub.cargo with popped := turn.popped? snapshot, fresh := turn.fresh? snapshot } :
        Cargo Snapshot) =
      { courier.hub.cargo with
        popped := turn.popped? snapshot
        fresh := turn.fresh? snapshot } := by
    intro hub same
    rw [same]
  cases signal with
  | done => exact absurd rfl unsent
  | failed =>
      refine held (courier.hub.note (.sendFailed _ snapshot) |>.note (.moved _ _)) ?_
      rw [Hub.cargo_note _ rfl, Hub.cargo_note _ rfl]
  | cancelled =>
      refine held (courier.hub.note (.sendAbandoned _ snapshot)) ?_
      rw [Hub.cargo_note _ rfl]

/-- What ends a wait other than a send leaves everything where it is. -/
theorem cargo_resume {wait : Wait} (notSending : ∀ snapshot turn, wait ≠ .sending snapshot turn)
    (cancelled : Bool) (signal : Signal) :
    cargoAfter (courier.resume cancelled signal wait) =
      { courier.hub.cargo with fresh := (Progress.waiting wait).fresh? } := by
  cases wait with
  | opening call => exact courier.cargo_answered cancelled signal call
  | backingOff delay call =>
      have again : cargoAfter ((courier.move .connecting).attempt cancelled call) =
          { courier.hub.cargo with fresh := call.fresh } := by
        rw [cargo_attempt, cargo_move]
      cases signal with
      | cancelled => exact courier.cargo_terminate call
      | done => exact again
      | failed => exact again
  | sending snapshot turn => exact absurd rfl (notSending snapshot turn)
  | closing => exact courier.hub.cargo_note rfl

end Delivery.Courier

namespace Traffic

open Delivery

variable {origin traffic next : Traffic} {act : Act}

/-- What an act does to the cargo is its move. -/
theorem cargo_step (step : Step traffic act next) :
    next.cargo = traffic.cargo.apply (traffic.move act) := by
  cases step with
  | call cancelled call => exact Delivery.Courier.cargo_start _ cancelled call
  | @work courier task cancelled =>
      cases task with
      | drain fresh =>
          cases cancelled with
          | true => exact courier.cargo_giveUp fresh
          | false => exact courier.cargo_drain fresh
      | putBack snapshot turn => exact courier.cargo_perform_putBack cancelled snapshot turn
      | keep snapshot => exact courier.cargo_perform_keep cancelled snapshot
  | @answer courier wait cancelled signal =>
      cases wait with
      | sending snapshot turn =>
          by_cases done : signal = .done
          · subst done
            exact courier.cargo_settled_done snapshot turn
          · have stays : (Delivery.Wait.sending snapshot turn).move signal = .stay := if_neg done
            change _ = Cargo.apply ((Delivery.Wait.sending snapshot turn).move signal) _
            rw [stays]
            exact courier.cargo_settled_of_ne_done done snapshot turn
      | opening call => exact courier.cargo_resume (by simp) cancelled signal
      | backingOff delay call => exact courier.cargo_resume (by simp) cancelled signal
      | closing => exact courier.cargo_resume (by simp) cancelled signal
  | record findings elapsed =>
      exact congrArg (fun cargo : Cargo Snapshot => { cargo with
        popped := traffic.progress.popped?
        fresh := traffic.progress.fresh? }) (traffic.hub.cargo_record findings elapsed)
  | offer snapshot =>
      exact congrArg (fun cargo : Cargo Snapshot => { cargo with
        popped := traffic.progress.popped?
        fresh := traffic.progress.fresh? }) (traffic.hub.cargo_offer snapshot)
  | @remark _ event isRemark =>
      have stays : event.departs = false := by
        cases event <;> first | rfl | cases isRemark
      exact congrArg (fun cargo : Cargo Snapshot => { cargo with
        popped := traffic.progress.popped?
        fresh := traffic.progress.fresh? }) (traffic.hub.cargo_note stays)
  | pass moment => rfl

/-- No act writes over a snapshot that a call holds: calls begin with empty hands, and a
call that pops holds no popped snapshot. -/
theorem ready_step (step : Step traffic act next) : traffic.cargo.Ready (traffic.move act) := by
  cases step with
  | call cancelled call => rfl
  | @work courier task cancelled =>
      cases task with
      | drain fresh => cases cancelled <;> first | rfl | trivial
      | putBack snapshot turn => trivial
      | keep snapshot => trivial
  | @answer courier wait cancelled signal =>
      cases wait with
      | sending snapshot turn => cases signal <;> trivial
      | _ => trivial
  | _ => trivial

/-! ## What is seen of an act -/

/-- The move of an act does what is seen of the act. -/
structure Seen (traffic : Traffic) (act : Act) : Prop where
  entering : (traffic.move act).entering = traffic.entering act
  handing : ∀ fresh, traffic.move act = .handOver fresh → traffic.handing act = fresh.toList
  delivering : traffic.cargo.delivering (traffic.move act) = traffic.taking act
  losing : traffic.cargo.losing (traffic.move act) = traffic.losing act
  returning : traffic.cargo.returning (traffic.move act) = traffic.returning act

/-- Putting back loses the snapshot that the backlog refuses. -/
theorem losing_putBack (courier : Courier) (cancelled : Bool) (snapshot : Snapshot)
    (turn : Turn) :
    (Traffic.mk courier (.working (.putBack snapshot turn))).cargo.losing .putBack =
      (Traffic.mk courier (.working (.putBack snapshot turn))).losing (.work cancelled) := by
  have held : (Traffic.mk courier (.working (.putBack snapshot turn))).cargo.carried =
      some snapshot := by
    cases turn <;> rfl
  change (if courier.hub.backlog.isFull then _ else _) =
    match courier.hub.backlog.requeue? snapshot with
    | some _ => []
    | none => [(snapshot, Log.DropReason.requeueOverflow)]
  rw [held]
  by_cases full : courier.hub.backlog.isFull
  · rw [if_pos full, Backlog.requeue?_of_full full]
    rfl
  · obtain ⟨backlog, accepted, -⟩ := Backlog.requeue?_of_room full snapshot
    rw [if_neg full, accepted]

theorem returning_offer (traffic : Traffic) (snapshot : Snapshot) :
    traffic.cargo.returning (.offer snapshot) = traffic.returning (.offer snapshot) := by
  change (traffic.hub.backlog.add snapshot).1.toList = (traffic.hub.offer snapshot).1.toList
  unfold Hub.offer
  obtain ⟨evicted, backlog⟩ := traffic.hub.backlog.add snapshot
  cases evicted <;> rfl

theorem Step.seen (step : Step traffic act next) : traffic.Seen act := by
  cases step with
  | call cancelled call =>
      refine ⟨(List.append_nil _).symm, ?_, rfl, rfl, rfl⟩
      intro fresh handed
      cases handed
      rfl
  | @work courier task cancelled =>
      cases task with
      | drain fresh => cases cancelled <;> exact ⟨rfl, by simp [move, Task.move], rfl, rfl, rfl⟩
      | keep snapshot => exact ⟨rfl, by simp [move, Task.move], rfl, List.append_nil _, rfl⟩
      | putBack snapshot turn =>
          have lost := losing_putBack courier cancelled snapshot turn
          exact ⟨rfl, by simp [move, Task.move], rfl, lost, rfl⟩
  | @answer courier wait cancelled signal =>
      cases wait with
      | sending snapshot turn =>
          cases signal with
          | done => cases turn <;> exact ⟨rfl, by simp [move, Wait.move], rfl, rfl, rfl⟩
          | _ => exact ⟨rfl, by simp [move, Wait.move], rfl, rfl, rfl⟩
      | _ => cases signal <;> exact ⟨rfl, by simp [move, Wait.move], rfl, rfl, rfl⟩
  | offer snapshot => exact ⟨rfl, by simp [move], rfl, rfl, returning_offer _ snapshot⟩
  | _ => exact ⟨rfl, by simp [move], rfl, rfl, rfl⟩

namespace Run

/-- A record that grows by what is seen of each act has grown by what was seen of all. -/
theorem collect_grows {α : Type u} {view : Traffic → Act → List α} (written : Traffic → List α)
    (grows : ∀ {traffic act next}, Step traffic act next →
      written next = written traffic ++ view traffic act)
    (run : Run origin traffic) : written traffic = written origin ++ run.collect view := by
  induction run with
  | start => exact (List.append_nil _).symm
  | extend run act step ih =>
      rw [grows step, ih, List.append_assoc]
      rfl

/-- A record that was empty at first is what was seen of all acts. -/
theorem collect_eq {α : Type u} {view : Traffic → Act → List α} (written : Traffic → List α)
    (empty : written origin = [])
    (grows : ∀ {traffic act next}, Step traffic act next →
      written next = written traffic ++ view traffic act)
    (run : Run origin traffic) : written traffic = run.collect view := by
  rw [run.collect_grows written grows, empty, List.nil_append]

variable {epoch : Int64} {capacity : Nat} {backoff : Backoff}
  (run : Run (initial epoch capacity backoff) traffic)

theorem sent_eq : traffic.cargo.sent = run.collect taking := by
  refine run.collect_eq (·.cargo.sent) rfl fun step => ?_
  rw [cargo_step step, (Cargo.recorded _ _).sent, step.seen.delivering]

theorem dropped_eq : traffic.cargo.dropped = run.collect losing := by
  refine run.collect_eq (·.cargo.dropped) rfl fun step => ?_
  rw [cargo_step step, (Cargo.recorded _ _).dropped, step.seen.losing]

theorem displaced_eq : traffic.cargo.displaced = run.collect returning := by
  refine run.collect_eq (·.cargo.displaced) rfl fun step => ?_
  rw [cargo_step step, (Cargo.recorded _ _).displaced, step.seen.returning]

end Run

end Traffic

end NodeTelemetry
