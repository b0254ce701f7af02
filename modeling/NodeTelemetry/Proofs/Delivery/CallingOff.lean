/-
# Calling delivery off

When delivery is called off, every wait but that for a stream to close ends at once, and
no new wait begins. A round that is due may still be begun, but it comes to nothing. The
snapshot that was being sent goes back to the front of the backlog, an open stream is
closed, and the deliverer stops without another moment passing.
-/

import NodeTelemetry.Proofs.Delivery.Waiting

namespace NodeTelemetry

open Delivery

/-! ## Couriers -/

theorem Hub.now_putBack (hub : Hub) (snapshot : Snapshot) :
    (hub.putBack snapshot).now = hub.now := by
  unfold putBack
  cases hub.backlog.requeue? snapshot <;> rfl

namespace Delivery.Courier

variable {courier : Courier}

/-- What was in flight goes back, and nothing else changes. -/
structure Halts (courier : Courier) (progress : Progress) (result : Courier × Progress) : Prop
    where
  returned : ∃ success, result.2 = .returned success
  now : result.1.hub.now = courier.hub.now
  cargo : result.1.hub.cargo = (cargoAfter (courier, progress)).putBack

/-- A round that is begun although delivery was called off comes to nothing. -/
theorem halts_start (rests : courier.state ∈ LinkState.running) (success : Bool) :
    Halts courier (.returned success) (settle true (courier.start true (.tick none))) := by
  have nothing : (cargoAfter (courier, .returned success)).putBack = courier.hub.cargo :=
    Cargo.putBack_none rfl
  cases link : courier.link with
  | connected stream =>
      have settled :
          settle true (courier.start true (.tick none)) = (courier, .returned false) := by
        unfold start connect
        rw [link]
        rfl
      rw [settled]
      exact ⟨⟨false, rfl⟩, rfl, nothing.symm⟩
  | disconnected =>
      have settled : settle true (courier.start true (.tick none)) =
          ((((courier.move .connecting).note .attempted).move .terminated), .returned false) := by
        unfold start connect
        rw [link]
        rfl
      rw [settled]
      refine ⟨⟨false, rfl⟩, rfl, ?_⟩
      rw [nothing, cargo_move]
      exact (Hub.cargo_note _ rfl).trans (courier.cargo_move .connecting)
  | _ => simp [state, link, Link.state, LinkState.running] at rests

/-- A call that was connecting holds nothing but what came with it. -/
theorem halts_terminate {progress : Progress} {call : Call} (unprompted : call.fresh = none)
    (held : cargoAfter (courier, progress) = { courier.hub.cargo with fresh := call.fresh }) :
    Halts courier progress (settle true (courier.terminate call)) := by
  have settled : settle true (courier.terminate call) =
      (courier.move .terminated, .returned false) := by
    unfold terminate
    rw [unprompted]
    rfl
  rw [settled]
  refine ⟨⟨false, rfl⟩, rfl, ?_⟩
  rw [held, unprompted]
  exact (courier.cargo_move .terminated).trans (Cargo.putBack_none rfl).symm

/-- A wait that is ended by calling delivery off. -/
theorem halts_resume {wait : Wait} (notClosing : wait ≠ .closing)
    (nothing : (Progress.waiting wait).fresh? = none) :
    Halts courier (.waiting wait) (settle true (courier.resume true .cancelled wait)) := by
  cases wait with
  | opening call => exact halts_terminate nothing rfl
  | backingOff delay call => exact halts_terminate nothing rfl
  | sending snapshot turn =>
      cases turn with
      | fresh => cases nothing
      | backlog fresh =>
          obtain rfl : fresh = none := nothing
          refine ⟨⟨false, rfl⟩, Hub.now_putBack _ snapshot, ?_⟩
          have abandoned : ∀ stream, (courier.hub.note (.sendAbandoned stream snapshot)).cargo =
              courier.hub.cargo := fun stream => courier.hub.cargo_note rfl
          refine (cargo_perform_putBack _ true snapshot (.backlog none)).trans ?_
          exact congrArg (fun cargo : Cargo Snapshot =>
            { cargo with popped := some snapshot, fresh := none }.putBack) (abandoned _)
  | closing => exact absurd rfl notClosing

/-- A stream that has closed. -/
theorem halts_closed (courier : Courier) :
    Halts courier (.waiting .closing) (settle true (courier.resume true .done .closing)) := by
  refine ⟨⟨true, rfl⟩, rfl, ?_⟩
  exact (courier.hub.cargo_note rfl).trans (Cargo.putBack_none rfl).symm

/-- What shutting down comes to. -/
theorem close_outcome (courier : Courier) :
    courier.close.1.hub.now = courier.hub.now ∧ courier.close.1.state = .terminated ∧
      (courier.close.2 = .returned true ∨ courier.close.2 = .waiting .closing) := by
  unfold close
  cases courier.link with
  | connected stream => exact ⟨rfl, rfl, .inr rfl⟩
  | _ => exact ⟨rfl, rfl, .inl rfl⟩

/-- No task is left to do then. -/
theorem settle_close (cancelled : Bool) (courier : Courier) :
    settle cancelled courier.close = courier.close := by
  unfold close
  cases courier.link <;> rfl

end Delivery.Courier

/-! ## Sessions -/

namespace Delivery

/-- The dealings after delivery was called off. -/
def windingUp : List Dealing := [.quit, .report]

theorem begun_subset_windingUp {cancelled : Bool} (calledOff : cancelled = true) :
    begun cancelled ⊆ windingUp := by
  rw [calledOff]
  exact List.cons_subset_cons _ (List.nil_subset _)

namespace Session

open Hub (Passage)

variable {peer : Peer} {origin session next : Session} {result : Courier × Progress}
  {delay earlier later : Nat}

/-- A session that has come of another one after delivery was called off. -/
structure Winds (origin session : Session) : Prop where
  cancelled : session.cancelled = true
  passage : Passage windingUp origin.hub origin.traffic.standing session.hub
    session.traffic.standing
  fits : session.traffic.Fits

/-- A session in which what was in flight has been put back, some time later. -/
structure Halted (delay : Nat) (origin session : Session) : Prop where
  winds : Winds origin session
  now : session.now = origin.now + delay
  cargo : session.traffic.cargo = origin.traffic.cargo.putBack

theorem Winds.trans (first : Winds origin session) (second : Winds session next) :
    Winds origin next :=
  ⟨second.cancelled, first.passage.trans second.passage, second.fits⟩

theorem Winds.terminated (winds : Winds session next) (fits : session.traffic.Fits)
    (ended : session.courier.state = .terminated) : next.courier.state = .terminated := by
  obtain ⟨events, -, trail⟩ := winds.passage
  have still := (trail.terminated ((Traffic.state_standing fits).trans ended)).1
  exact (Traffic.state_standing winds.fits).symm.trans still

/-- A session that waits for nothing has nothing in flight. -/
theorem cargo_free (free : session.pending = none) :
    session.traffic.cargo = session.hub.cargo :=
  congrArg Traffic.cargo (traffic_of_free free)

theorem putBack_free (free : session.pending = none) :
    session.traffic.cargo.putBack = session.traffic.cargo := by
  rw [cargo_free free]
  exact Cargo.putBack_none rfl

theorem putBack_closing {courier : Courier}
    (closing : session.pending = some (schedule peer courier .closing)) :
    session.traffic.cargo.putBack = session.traffic.cargo := by
  rw [traffic_of_waits closing]
  exact Cargo.putBack_none rfl

theorem Halted.trans (first : Halted earlier origin session)
    (nothing : session.traffic.cargo.putBack = session.traffic.cargo)
    (second : Halted later session next) : Halted (earlier + later) origin next := by
  refine ⟨first.winds.trans second.winds, ?_, ?_⟩
  · rw [second.now, first.now, Nat.add_assoc]
  · rw [second.cargo, nothing, first.cargo]

theorem absorb_returned {success : Bool} (cancelled : session.cancelled = true)
    (returned : (Courier.settle true result).2 = .returned success) :
    (session.absorb peer result).pending = none ∧
      (session.absorb peer result).courier = (Courier.settle true result).1 := by
  unfold absorb
  rw [cancelled]
  generalize Courier.settle true result = settled at returned
  obtain ⟨courier, progress⟩ := settled
  obtain rfl : progress = .returned success := returned
  exact ⟨rfl, rfl⟩

theorem winds_absorb (cancelled : session.cancelled = true)
    (leaves : Courier.Leaves windingUp session.hub session.traffic.standing result) :
    Winds session (session.absorb peer result) := by
  obtain ⟨passage, fits⟩ := @passage_absorb peer session result _ _ _ leaves
    (begun_subset_windingUp cancelled)
  exact ⟨cancelled_absorb cancelled result, passage, fits⟩

theorem halted_absorb (cancelled : session.cancelled = true)
    (leaves : Courier.Leaves windingUp session.hub session.traffic.standing result)
    (halts : Courier.Halts session.courier session.traffic.progress
      (Courier.settle true result)) :
    Halted 0 session (session.absorb peer result) ∧
      (session.absorb peer result).pending = none := by
  obtain ⟨success, returned⟩ := halts.returned
  obtain ⟨free, courier⟩ := @absorb_returned peer session result success cancelled returned
  refine ⟨⟨winds_absorb cancelled leaves, ?_, ?_⟩, free⟩
  · change (session.absorb peer result).courier.hub.now = session.courier.hub.now
    rw [courier]
    exact halts.now
  · rw [cargo_free free]
    change (session.absorb peer result).courier.hub.cargo = _
    rw [courier]
    exact halts.cargo

/-- A round that is begun after all. -/
theorem halted_start (cancelled : session.cancelled = true) (free : session.pending = none)
    (rests : session.courier.state ∈ LinkState.running) :
    Halted 0 session (session.start peer (.tick none)) ∧
      (session.start peer (.tick none)).pending = none := by
  apply halted_absorb cancelled
  · rw [standing_of_free free]
    exact (Courier.leaves_start (.tick none)).mono (begun_subset_windingUp cancelled)
  · rw [traffic_of_free free, cancelled]
    exact Courier.halts_start rests session.success

theorem interrupted_of_suspended {pending : Pending} (cancelled : session.cancelled = true)
    (suspended : pending.immediate = false) (notClosing : pending.wait ≠ .closing) :
    session.interrupted pending = true := by
  unfold interrupted
  rw [cancelled, suspended]
  cases wait : pending.wait with
  | closing => exact absurd wait notClosing
  | _ => rfl

/-- A wait that is ended. -/
theorem halted_step {pending : Pending} (cancelled : session.cancelled = true)
    (fits : session.traffic.Fits) (waits : session.pending = some pending)
    (suspended : pending.immediate = false) (notClosing : pending.wait ≠ .closing)
    (nothing : (Progress.waiting pending.wait).fresh? = none) :
    Halted 0 session (session.step peer) ∧ (session.step peer).pending = none := by
  have interrupted := interrupted_of_suspended cancelled suspended notClosing
  have stepped : session.step peer =
      session.absorb peer (session.courier.resume true .cancelled pending.wait) := by
    rw [step_of_interrupted waits interrupted, cancelled]
  rw [stepped]
  apply halted_absorb cancelled
  · rw [standing_of_waits waits]
    refine (Courier.leaves_resume (fits_of_waits fits waits)).mono ?_
    decide
  · rw [traffic_of_waits waits]
    exact Courier.halts_resume notClosing nothing

/-- The link is shut down, which may mean to wait for a stream to close. -/
theorem halted_shutdown (cancelled : session.cancelled = true) (free : session.pending = none) :
    Halted 0 session (session.start peer .shutdown) ∧
      (session.start peer .shutdown).courier.state = .terminated ∧
      ((session.start peer .shutdown).pending = none ∨
        (session.start peer .shutdown).pending =
          some (schedule peer (session.start peer .shutdown).courier .closing)) := by
  have settled := session.courier.settle_close session.cancelled
  have courier : (session.start peer .shutdown).courier = session.courier.close.1 :=
    congrArg (·.1) settled
  have pending : (session.start peer .shutdown).pending =
      session.courier.close.2.wait?.map (schedule peer session.courier.close.1) :=
    congrArg (fun result : Courier × Progress =>
      result.2.wait?.map (schedule peer result.1)) settled
  have traffic : (session.start peer .shutdown).traffic = .of session.courier.close := by
    rw [← settled]
    exact traffic_absorb peer session session.courier.close
  have leaves : Courier.Leaves windingUp session.hub session.traffic.standing
      session.courier.close := by
    rw [standing_of_free free]
    exact Courier.leaves_close.mono (begun_subset_windingUp rfl)
  obtain ⟨now, terminated, outcome⟩ := session.courier.close_outcome
  rw [pending, courier]
  refine ⟨⟨winds_absorb cancelled leaves, ?_, ?_⟩, terminated, ?_⟩
  · change (session.start peer .shutdown).courier.hub.now = session.courier.hub.now
    rw [courier]
    exact now
  · rw [traffic, putBack_free free, cargo_free free]
    exact session.courier.cargo_close
  · obtain returned | waits := outcome
    · rw [returned]
      exact .inl rfl
    · rw [waits]
      exact .inr rfl

/-- Waiting for a stream to close goes on although delivery was called off. -/
theorem not_interrupted_closing (courier : Courier) :
    session.interrupted (schedule peer courier .closing) = false := by
  unfold interrupted
  rw [Bool.and_eq_false_iff]
  exact .inr rfl

/-- A session that waits for its stream to close goes on when it has. -/
theorem step_eq_of_closes (cancelled : session.cancelled = true)
    (closing : session.pending = some (schedule peer session.courier .closing))
    (takes : peer.closing session.courier.attempts = some delay) :
    session.step peer = (session.arrive (session.now + delay) []).absorb peer
      ((session.arrive (session.now + delay) []).courier.resume true .done .closing) := by
  have due : (schedule peer session.courier .closing).due = some (session.now + delay) :=
    congrArg (Option.map (session.now + ·)) takes
  rw [step_of_due closing (not_interrupted_closing _) due, cancelled]
  rfl

theorem halted_closed (cancelled : session.cancelled = true) (fits : session.traffic.Fits)
    {courier : Courier} (closing : session.pending = some (schedule peer courier .closing)) :
    Halted 0 session (session.absorb peer (session.courier.resume true .done .closing)) ∧
      (session.absorb peer (session.courier.resume true .done .closing)).pending = none := by
  apply halted_absorb cancelled
  · rw [standing_of_waits closing]
    exact Courier.leaves_closed (fits_of_waits fits closing)
  · rw [traffic_of_waits closing]
    exact Courier.halts_closed session.courier

/-- A stream closes. -/
theorem halted_unlink (cancelled : session.cancelled = true) (fits : session.traffic.Fits)
    (closing : session.pending = some (schedule peer session.courier .closing))
    (takes : peer.closing session.courier.attempts = some delay) :
    Halted delay session (session.step peer) ∧ (session.step peer).pending = none := by
  have waits : (session.arrive (session.now + delay) []).pending =
    some (schedule peer session.courier .closing) := closing
  have arrived : Halted delay session (session.arrive (session.now + delay) []) :=
    ⟨⟨cancelled, passage_arrive _ _ session _, fits⟩,
      Nat.max_eq_right (Nat.le_add_right _ _), (putBack_closing closing).symm⟩
  obtain ⟨closed, free⟩ :=
    @halted_closed peer (session.arrive (session.now + delay) []) cancelled fits _ waits
  rw [step_eq_of_closes cancelled closing takes]
  exact ⟨arrived.trans (putBack_closing waits) closed, free⟩

/-- A stream that never closes is waited for without end. -/
theorem step_eq_of_never
    (closing : session.pending = some (schedule peer session.courier .closing))
    (never : peer.closing session.courier.attempts = none) : session.step peer = session :=
  step_of_never closing (not_interrupted_closing _)
    (congrArg (Option.map (session.now + ·)) never)

/-- Somebody writes down something else in the meantime. -/
theorem Winds.note {event : Event} (winds : Winds origin session)
    (notLink : event.isLink = false) : Winds origin (session.modifyHub (·.note event)) :=
  ⟨winds.cancelled, winds.passage.trans (Hub.passage_note (.aside notLink (.inr (by decide)))),
    winds.fits⟩

theorem cargo_note {event : Event} (stays : event.departs = false) :
    (session.modifyHub (·.note event)).traffic.cargo = session.traffic.cargo := by
  have same := session.hub.cargo_note stays
  exact congrArg (fun cargo : Cargo Snapshot =>
    { cargo with
      popped := session.traffic.progress.popped?
      fresh := session.traffic.progress.fresh? }) same

theorem Halted.note {event : Event} (halted : Halted delay origin session)
    (notLink : event.isLink = false) (stays : event.departs = false) :
    Halted delay origin (session.modifyHub (·.note event)) :=
  ⟨halted.winds.note notLink, halted.now, (cargo_note stays).trans halted.cargo⟩

end Session

/-! ## Deliverers -/

namespace Deliverer

open NodeTelemetry.Delivery.Session (Winds Halted)

variable {plan : Plan} {origin session : Session} {deliverer : Deliverer}

/-- Where a deliverer that was called off stands, by what it is doing. -/
def Stage (plan : Plan) (origin session : Session) : Phase → Prop
  | .delivering =>
    Winds origin session ∧ session.now = origin.now ∧
      session.traffic.cargo = origin.traffic.cargo ∧
      ∃ pending, session.pending = some pending ∧ pending.immediate = false ∧
        pending.wait ≠ .closing ∧ (Progress.waiting pending.wait).fresh? = none
  | .idle =>
    Halted 0 origin session ∧ session.pending = none ∧ session.courier.state ≠ .terminated
  | .stopping =>
    Halted 0 origin session ∧
      session.pending = some (Session.schedule plan.peer session.courier .closing)
  | .stopped =>
    ∃ delay, Halted delay origin session ∧ session.pending = none ∧
      session.courier.state = .terminated ∧
      ((∀ attempt, plan.peer.closing attempt = some 0) → delay = 0)

theorem Stage.note {event : Event} {phase : Phase} (stage : Stage plan origin session phase)
    (notLink : event.isLink = false) (stays : event.departs = false) :
    Stage plan origin (session.modifyHub (·.note event)) phase := by
  cases phase with
  | delivering =>
      obtain ⟨winds, now, cargo, waits⟩ := stage
      exact ⟨winds.note notLink, now, (Session.cargo_note stays).trans cargo, waits⟩
  | idle =>
      obtain ⟨halted, free, running⟩ := stage
      exact ⟨halted.note notLink stays, free, running⟩
  | stopping =>
      obtain ⟨halted, closing⟩ := stage
      exact ⟨halted.note notLink stays, closing⟩
  | stopped =>
      obtain ⟨delay, halted, free, terminated, prompt⟩ := stage
      exact ⟨delay, halted.note notLink stays, free, terminated, prompt⟩

/-- A session that was free when the deliverer stopped. -/
theorem stage_stop (halted : Halted 0 origin session) (free : session.pending = none) :
    Stage plan origin (deliverer.stop plan session).1 (deliverer.stop plan session).2.phase := by
  obtain ⟨shut, terminated, outcome⟩ :=
    @Session.halted_shutdown plan.peer session halted.winds.cancelled free
  have both := halted.trans (Session.putBack_free free) shut
  unfold stop
  obtain closed | closing := outcome
  · simp only [closed, Option.isSome_none, Bool.false_eq_true, if_false]
    exact ⟨0, both, closed, terminated, fun _ => rfl⟩
  · simp only [closing, Option.isSome_some, if_true]
    exact ⟨both, closing⟩

theorem stage_conclude (halted : Halted 0 origin session) (free : session.pending = none) :
    Stage plan origin (deliverer.conclude plan session).1
      (deliverer.conclude plan session).2.phase := by
  have surveyed : Halted 0 origin (survey session) := halted.note rfl rfl
  have stillFree : (survey session).pending = none := free
  unfold conclude
  rw [if_neg (by simp [free])]
  simp only
  split
  · exact stage_stop surveyed stillFree
  · rename_i running
    exact ⟨surveyed, stillFree, running⟩

/-- A round that is begun after calling off has come to nothing already. -/
theorem halted_round (halted : Halted 0 origin session) (free : session.pending = none)
    (running : session.courier.state ≠ .terminated) :
    Halted 0 origin (session.start plan.peer (.tick none)) ∧
      (session.start plan.peer (.tick none)).pending = none := by
  have rests := LinkState.mem_running (Session.fits_of_free halted.winds.fits free) running
  obtain ⟨round, stillFree⟩ :=
    @Session.halted_start plan.peer session halted.winds.cancelled free rests
  exact ⟨halted.trans (Session.putBack_free free) round, stillFree⟩

/-- A round that was going on is over. -/
theorem halted_interrupted (stage : Stage plan origin session .delivering) :
    Halted 0 origin (session.step plan.peer) ∧ (session.step plan.peer).pending = none := by
  obtain ⟨winds, now, cargo, pending, waits, suspended, notClosing, nothing⟩ := stage
  obtain ⟨halted, free⟩ := @Session.halted_step plan.peer session pending winds.cancelled
    winds.fits waits suspended notClosing nothing
  refine ⟨⟨winds.trans halted.winds, ?_, ?_⟩, free⟩
  · rw [halted.now, now]
  · rw [halted.cargo, cargo]

/-- What is done after calling off keeps to the stages. -/
theorem stage_step (stage : Stage plan origin session deliverer.phase) :
    Stage plan origin (deliverer.step plan session).1 (deliverer.step plan session).2.phase := by
  unfold step
  cases phase : deliverer.phase with
  | stopped =>
      rw [phase] at stage
      simp only [phase]
      exact stage
  | idle =>
      rw [phase] at stage
      obtain ⟨halted, free, running⟩ := stage
      simp only [halted.winds.cancelled, if_true]
      split
      · obtain ⟨round, stillFree⟩ := @halted_round plan origin session halted free running
        exact stage_conclude round stillFree
      · exact stage_stop halted free
  | delivering =>
      rw [phase] at stage
      obtain ⟨halted, free⟩ := halted_interrupted stage
      exact stage_conclude halted free
  | stopping =>
      rw [phase] at stage
      obtain ⟨halted, closing⟩ := stage
      have terminated : session.courier.state = .terminated :=
        List.mem_singleton.mp (Session.fits_of_waits halted.winds.fits closing)
      simp only
      cases takes : plan.peer.closing session.courier.attempts with
      | none =>
          rw [Session.step_eq_of_never closing takes]
          simp only [closing, Option.isSome_some, if_true]
          exact ⟨halted, closing⟩
      | some delay =>
          obtain ⟨closed, free⟩ := Session.halted_unlink halted.winds.cancelled
            halted.winds.fits closing takes
          simp only [free, Option.isSome_none, Bool.false_eq_true, if_false]
          refine ⟨0 + delay, halted.trans (Session.putBack_closing closing) closed, free,
            closed.winds.terminated halted.winds.fits terminated, ?_⟩
          intro prompt
          rw [prompt] at takes
          rw [Nat.zero_add, ← Option.some.inj takes]

/-- An upper bound for what a deliverer still has to do once it was called off, while the
clock stands still: each further round is due later. -/
def rank (now : Nat) (deliverer : Deliverer) : Nat :=
  match deliverer.phase with
  | .stopped => 0
  | .stopping => 1
  | .idle => 2 + (now + 1 - deliverer.ticker.due)
  | .delivering => 3 + (now + 1 - deliverer.ticker.due)

theorem rank_stop (now : Nat) : (deliverer.stop plan session).2.rank now ≤ 1 := by
  unfold stop
  simp only
  cases (session.start plan.peer .shutdown).pending with
  | none => exact Nat.zero_le 1
  | some pending => exact Nat.le_refl 1

theorem rank_conclude (free : session.pending = none) (now : Nat) :
    (deliverer.conclude plan session).2.rank now ≤ 2 + (now + 1 - deliverer.ticker.due) := by
  unfold conclude
  rw [if_neg (by simp [free])]
  simp only
  split
  · exact Nat.le_trans (rank_stop now) (by omega)
  · exact Nat.le_refl _

theorem due_take (ticker : Ticker) (moment : Nat) :
    ticker.due + ticker.interval ≤ (ticker.take moment).due := by
  unfold Ticker.take
  simp only
  split <;> omega

/-- Everything that a deliverer does after calling off brings it closer to the end, if
streams close at once. -/
theorem rank_step (stage : Stage plan origin session deliverer.phase)
    (positive : 0 < deliverer.ticker.interval)
    (prompt : ∀ attempt, plan.peer.closing attempt = some 0)
    (goesOn : deliverer.phase ≠ .stopped) :
    (deliverer.step plan session).2.rank origin.now < deliverer.rank origin.now := by
  unfold step
  cases phase : deliverer.phase with
  | stopped => exact absurd phase goesOn
  | idle =>
      rw [phase] at stage
      obtain ⟨halted, free, running⟩ := stage
      have before : deliverer.rank origin.now =
          2 + (origin.now + 1 - deliverer.ticker.due) := by
        unfold rank
        rw [phase]
      simp only [halted.winds.cancelled, if_true]
      rw [before]
      split
      · rename_i early
        have due : deliverer.ticker.due ≤ origin.now := by
          have now : session.now = origin.now := halted.now
          rw [← now]
          exact of_decide_eq_true (Bool.and_eq_true_iff.mp early).2
        obtain ⟨-, stillFree⟩ := @halted_round plan origin session halted free running
        have next := due_take deliverer.ticker session.now
        have concluded := @rank_conclude plan _
          { deliverer with
            ticker := deliverer.ticker.take session.now
            rounds := deliverer.rounds + 1 } stillFree origin.now
        refine Nat.lt_of_le_of_lt concluded ?_
        simp only
        omega
      · exact Nat.lt_of_le_of_lt (rank_stop origin.now) (by omega)
  | delivering =>
      rw [phase] at stage
      have before : deliverer.rank origin.now =
          3 + (origin.now + 1 - deliverer.ticker.due) := by
        unfold rank
        rw [phase]
      rw [before]
      exact Nat.lt_of_le_of_lt (rank_conclude (halted_interrupted stage).2 origin.now) (by omega)
  | stopping =>
      rw [phase] at stage
      obtain ⟨halted, closing⟩ := stage
      obtain ⟨-, free⟩ := Session.halted_unlink halted.winds.cancelled halted.winds.fits closing
        (prompt session.courier.attempts)
      unfold rank
      simp [free, phase]

/-- If streams close at once, there is always something to do until the end. -/
theorem stopped_of_not_due (stage : Stage plan origin session deliverer.phase)
    (prompt : ∀ attempt, plan.peer.closing attempt = some 0)
    (notDue : deliverer.dueAt? session = none) : deliverer.phase = .stopped := by
  unfold dueAt? at notDue
  cases phase : deliverer.phase with
  | stopped => rfl
  | idle =>
      rw [phase] at notDue
      cases notDue
  | delivering =>
      rw [phase] at stage notDue
      obtain ⟨winds, -, -, pending, waits, suspended, notClosing, -⟩ := stage
      have interrupted :=
        Session.interrupted_of_suspended winds.cancelled suspended notClosing
      simp [Session.dueAt?, waits, interrupted] at notDue
  | stopping =>
      rw [phase] at stage notDue
      obtain ⟨-, closing⟩ := stage
      have due : (Session.schedule plan.peer session.courier .closing).due =
          some (session.now + 0) :=
        congrArg (Option.map (session.now + ·)) (prompt session.courier.attempts)
      simp [Session.dueAt?, closing, Session.not_interrupted_closing, due] at notDue

end Deliverer

end Delivery

/-! ## Agents -/

namespace Agent

open Deliverer (Stage)

variable {plan : Plan} {origin agent next : Agent}

/-- Where an agent that was called off stands. -/
structure WindsUp (plan : Plan) (origin agent : Agent) : Prop where
  cancelled : agent.session.cancelled = true
  stage : Stage plan.delivery origin.session agent.session agent.deliverer.phase
  positive : 0 < agent.deliverer.ticker.interval

/-- A collector that was called off stops and leaves at most a note. -/
theorem stepCollector_cancelled (cancelled : agent.session.cancelled = true) :
    (agent.stepCollector plan).collector.phase = .stopped ∧
      ((agent.stepCollector plan).session = agent.session ∨
        ∃ index, (agent.stepCollector plan).session =
          agent.session.modifyHub (·.note (.discarded index))) := by
  unfold stepCollector Collection.Collector.step
  cases phase : agent.collector.phase with
  | stopped => exact ⟨phase, .inl rfl⟩
  | idle =>
      simp only [cancelled, if_true]
      exact ⟨trivial, .inl rfl⟩
  | running collection =>
      simp only [cancelled, if_true]
      exact ⟨trivial, .inr ⟨collection.index, rfl⟩⟩

namespace WindsUp

theorem step (windsUp : WindsUp plan origin agent) (step : agent.step? plan none = some next) :
    WindsUp plan origin next := by
  have cancelled := cancelled_step step windsUp.cancelled
  obtain ⟨rfl, -⟩ | ⟨rfl, -⟩ := step?_cases step
  · refine ⟨cancelled, Deliverer.stage_step windsUp.stage, ?_⟩
    exact Nat.lt_of_lt_of_eq windsUp.positive Deliverer.interval_step.symm
  · refine ⟨cancelled, ?_, windsUp.positive⟩
    change Stage plan.delivery origin.session (agent.stepCollector plan).session
      agent.deliverer.phase
    obtain ⟨-, same | ⟨index, noted⟩⟩ := @stepCollector_cancelled plan agent windsUp.cancelled
    · rw [same]
      exact windsUp.stage
    · rw [noted]
      exact windsUp.stage.note rfl rfl

theorem advance (windsUp : WindsUp plan origin agent) (steps : Nat) :
    WindsUp plan origin (agent.advance plan none steps) :=
  advance_keeps .step windsUp steps

end WindsUp

/-- An upper bound for what an agent still has to do once it was called off. -/
def rank (now : Nat) (agent : Agent) : Nat :=
  (if agent.collector.phase = .stopped then 0 else 1) + agent.deliverer.rank now

namespace WindsUp

theorem rank_step (windsUp : WindsUp plan origin agent)
    (prompt : ∀ attempt, plan.delivery.peer.closing attempt = some 0)
    (step : agent.step? plan none = some next) :
    next.rank origin.session.now < agent.rank origin.session.now := by
  obtain ⟨rfl, due⟩ | ⟨rfl, due⟩ := step?_cases step
  · have goesOn : agent.deliverer.phase ≠ .stopped := by
      intro stopped
      unfold Deliverer.dueAt? at due
      rw [stopped] at due
      cases due
    exact Nat.add_lt_add_left
      (Deliverer.rank_step windsUp.stage windsUp.positive prompt goesOn) _
  · have goesOn : agent.collector.phase ≠ .stopped := by
      intro stopped
      unfold Collection.Collector.dueAt? at due
      rw [stopped] at due
      cases due
    have stopped := (@stepCollector_cancelled plan agent windsUp.cancelled).1
    unfold rank
    rw [if_pos stopped, if_neg goesOn]
    exact Nat.add_lt_add_right Nat.zero_lt_one _

/-- Nothing is left to do only when both loops have stopped. -/
theorem stopped_of_step? (windsUp : WindsUp plan origin agent)
    (prompt : ∀ attempt, plan.delivery.peer.closing attempt = some 0)
    (step : agent.step? plan none = none) : agent.stopped := by
  obtain ⟨delivering, collecting⟩ := not_due_of_step? step
  have collector : agent.collector.phase = .stopped := by
    unfold Collection.Collector.dueAt? at collecting
    cases phase : agent.collector.phase with
    | stopped => rfl
    | _ =>
        rw [phase] at collecting
        cases collecting
  have deliverer := Deliverer.stopped_of_not_due windsUp.stage prompt delivering
  unfold stopped
  rw [collector, deliverer]
  rfl

theorem stopped_advance (windsUp : WindsUp plan origin agent)
    (prompt : ∀ attempt, plan.delivery.peer.closing attempt = some 0) {steps : Nat}
    (enough : agent.rank origin.session.now ≤ steps) :
    (agent.advance plan none steps).stopped := by
  have rests : (agent.advance plan none steps).step? plan none = none :=
    advance_rests (fun windsUp goesOn => ⟨windsUp.step goesOn, windsUp.rank_step prompt goesOn⟩)
      windsUp enough
  exact (windsUp.advance steps).stopped_of_step? prompt rests

end WindsUp

/-- Calling off begins with a deliverer in a round or between two rounds. -/
theorem windsUp_cancel (underway : agent.Underway) (suspended : agent.Suspended)
    (positive : 0 < agent.deliverer.ticker.interval) :
    WindsUp plan agent agent.cancel := by
  have winds : Session.Winds agent.session agent.session.cancel :=
    ⟨rfl, .refl _ _, underway.sound.fits⟩
  refine ⟨rfl, ?_, positive⟩
  change Stage plan.delivery agent.session agent.session.cancel agent.deliverer.phase
  obtain ⟨idle, free⟩ | ⟨delivering, waits⟩ := underway.phase
  · rw [idle]
    exact ⟨⟨winds, rfl, (Session.putBack_free free).symm⟩, free, underway.sound.running⟩
  · rw [delivering]
    obtain ⟨pending, waits⟩ := Option.isSome_iff_exists.mp waits
    refine ⟨winds, rfl, rfl, pending, waits, suspended pending waits, ?_, ?_⟩
    · intro closing
      have states := Session.fits_of_waits underway.sound.fits waits
      rw [closing] at states
      exact underway.sound.running (List.mem_singleton.mp states)
    · have nothing := underway.sound.backlogOnly
      rw [Session.traffic_of_waits waits] at nothing
      exact nothing

/-- The snapshot that an agent is sending. -/
def Sends (agent : Agent) (snapshot : Snapshot) : Prop :=
  ∃ pending ∈ agent.session.pending, ∃ turn, pending.wait = .sending snapshot turn

/-- What was being sent is at the front of the backlog again, unless that has filled up
meanwhile. -/
def Recovers (agent final : Agent) (snapshot : Snapshot) : Prop :=
  if agent.hub.backlog.isFull then
    final.hub.backlog.toList = agent.hub.backlog.toList ∧
      final.hub.journal.dropped = agent.hub.journal.dropped ++ [(snapshot, .requeueOverflow)]
  else
    final.hub.backlog.toList = snapshot :: agent.hub.backlog.toList ∧
      final.hub.journal.dropped = agent.hub.journal.dropped

/-- What it means for an agent to be called off now. -/
structure EndsHere (plan : Plan) (agent : Agent) : Prop where
  /-- The relay is asked for nothing, and given nothing, from now on. -/
  quiet : ∀ steps, ∃ events,
    (agent.finish plan steps).hub.journal.events = agent.hub.journal.events ++ events ∧
      ∀ event ∈ events, event.isRequest = false
  /-- If streams close at once, both loops stop without another moment passing. -/
  prompt : (∀ attempt, plan.delivery.peer.closing attempt = some 0) →
    ∃ enough, ∀ steps, enough ≤ steps →
      (agent.finish plan steps).stopped ∧ (agent.finish plan steps).hub.now = agent.hub.now
  recovers : ∀ steps, (agent.finish plan steps).deliverer.phase = .stopped →
    ∀ snapshot, agent.Sends snapshot → agent.Recovers (agent.finish plan steps) snapshot
  /-- If nothing was being sent, the backlog stays as it is. -/
  keeps : ∀ steps, (agent.finish plan steps).deliverer.phase = .stopped →
    (∀ snapshot, ¬agent.Sends snapshot) →
      (agent.finish plan steps).hub.backlog = agent.hub.backlog ∧
        (agent.finish plan steps).hub.journal.dropped = agent.hub.journal.dropped
  /-- An open stream is told to close once, and no other is. -/
  closes : ∀ steps, (agent.finish plan steps).deliverer.phase = .stopped →
    (agent.finish plan steps).hub.journal.closes =
      agent.hub.journal.closes + if agent.session.courier.state = .connected then 1 else 0

namespace WindsUp

theorem winds (windsUp : WindsUp plan origin agent) :
    Session.Winds origin.session agent.session := by
  have stage := windsUp.stage
  cases phase : agent.deliverer.phase with
  | delivering =>
      rw [phase] at stage
      exact stage.1
  | idle =>
      rw [phase] at stage
      exact stage.1.winds
  | stopping =>
      rw [phase] at stage
      exact stage.1.winds
  | stopped =>
      rw [phase] at stage
      obtain ⟨delay, halted, -⟩ := stage
      exact halted.winds

/-- All cargo is where it belongs once the deliverer has stopped. -/
theorem cargo_stopped (windsUp : WindsUp plan origin agent)
    (stopped : agent.deliverer.phase = .stopped) :
    agent.hub.cargo = origin.session.traffic.cargo.putBack := by
  have stage := windsUp.stage
  rw [stopped] at stage
  obtain ⟨delay, halted, free, -, -⟩ := stage
  exact (Session.cargo_free free).symm.trans halted.cargo

theorem recovers (windsUp : WindsUp plan origin agent)
    (stopped : agent.deliverer.phase = .stopped) {snapshot : Snapshot}
    (sends : origin.Sends snapshot) : origin.Recovers agent snapshot := by
  have final := windsUp.cargo_stopped stopped
  have inFlight : origin.session.traffic.cargo.carried = some snapshot := by
    obtain ⟨pending, waits, turn, wait⟩ := sends
    rw [Session.traffic_of_waits waits, wait]
    cases turn <;> rfl
  unfold Recovers
  split
  · rename_i full
    rw [Cargo.putBack_full inFlight full] at final
    have backlog : agent.hub.backlog = origin.hub.backlog :=
      (congrArg Cargo.backlog final).trans (Cargo.release_backlog _)
    exact ⟨congrArg Backlog.toList backlog, congrArg Cargo.dropped final⟩
  · rename_i room
    obtain ⟨backlog, putBack, waiting, -⟩ := Cargo.putBack_room inFlight room
    rw [putBack] at final
    have holds : agent.hub.backlog = backlog := congrArg Cargo.backlog final
    refine ⟨(congrArg Backlog.toList holds).trans waiting, ?_⟩
    exact (congrArg Cargo.dropped final).trans (Cargo.release_dropped _)

theorem keeps (windsUp : WindsUp plan origin agent)
    (backlogOnly : origin.session.traffic.progress.fresh? = none)
    (stopped : agent.deliverer.phase = .stopped)
    (notSending : ∀ snapshot, ¬origin.Sends snapshot) :
    agent.hub.backlog = origin.hub.backlog ∧
      agent.hub.journal.dropped = origin.hub.journal.dropped := by
  have final := windsUp.cargo_stopped stopped
  have nothing : origin.session.traffic.cargo.carried = none := by
    have popped : origin.session.traffic.progress.popped? = none := by
      cases waits : origin.session.pending with
      | none =>
          rw [Session.traffic_of_free waits]
          rfl
      | some pending =>
          rw [Session.traffic_of_waits waits]
          cases wait : pending.wait with
          | sending snapshot turn =>
              exact absurd ⟨pending, waits, turn, wait⟩ (notSending snapshot)
          | _ => rfl
    change (origin.session.traffic.progress.popped?).or
      origin.session.traffic.progress.fresh? = none
    rw [popped, backlogOnly]
    rfl
  rw [Cargo.putBack_none nothing] at final
  exact ⟨congrArg Cargo.backlog final, congrArg Cargo.dropped final⟩

theorem closes (windsUp : WindsUp plan origin agent) (fits : origin.session.traffic.Fits)
    (stopped : agent.deliverer.phase = .stopped) :
    agent.hub.journal.closes =
      origin.hub.journal.closes + if origin.session.courier.state = .connected then 1 else 0 := by
  have stage := windsUp.stage
  rw [stopped] at stage
  obtain ⟨delay, halted, -, terminated, -⟩ := stage
  obtain ⟨events, hevents, trail⟩ := halted.winds.passage
  have after : agent.session.traffic.standing.state = .terminated :=
    (Traffic.state_standing halted.winds.fits).trans terminated
  have before : origin.session.traffic.standing.state = origin.session.courier.state :=
    Traffic.state_standing fits
  have told := trail.closes_add (by decide)
  rw [after, before, if_neg (by decide), Nat.add_zero] at told
  change agent.session.hub.journal.closes = origin.session.hub.journal.closes + _
  rw [Journal.closes_eq, Journal.closes_eq, hevents, List.countP_append, told]

end WindsUp

/-- At whatever moment delivery is called off, it ends there, and nothing gets lost by it
that there is room for. -/
theorem ends_here {hub : Hub} {backoff : Backoff} {collecting : Option Nat} {interval : Nat}
    (positive : 0 < interval)
    (reached : Reached plan (start { hub, backoff } collecting (some interval)) agent)
    (goesOn : agent.session.cancelled = false) (suspended : agent.Suspended) :
    agent.EndsHere plan := by
  have underway := reached.underway (underway_start rfl collecting interval) goesOn
  have ticks : 0 < agent.deliverer.ticker.interval :=
    Nat.lt_of_lt_of_eq positive reached.interval.symm
  have windsUp : ∀ steps, WindsUp plan agent (agent.finish plan steps) :=
    (windsUp_cancel underway suspended ticks).advance
  refine ⟨?_, ?_, ?_, ?_, ?_⟩
  · intro steps
    obtain ⟨events, hevents, trail⟩ := (windsUp steps).winds.passage
    exact ⟨events, hevents, trail.unrequested (by decide)⟩
  · intro prompt
    refine ⟨agent.cancel.rank agent.session.now, fun steps enough => ?_⟩
    have stopped : (agent.finish plan steps).stopped :=
      (windsUp_cancel underway suspended ticks).stopped_advance prompt enough
    refine ⟨stopped, ?_⟩
    have stage := (windsUp steps).stage
    have phase : (agent.finish plan steps).deliverer.phase = .stopped :=
      of_decide_eq_true (Bool.and_eq_true_iff.mp stopped).2
    rw [phase] at stage
    obtain ⟨delay, halted, -, -, none⟩ := stage
    rw [none prompt] at halted
    exact halted.now
  · intro steps stopped snapshot sends
    exact (windsUp steps).recovers stopped sends
  · intro steps stopped notSending
    exact (windsUp steps).keeps underway.sound.backlogOnly stopped notSending
  · intro steps stopped
    exact (windsUp steps).closes underway.sound.fits stopped

/-- A relay that accepts every stream and never takes a snapshot, and sources that never
answer. -/
def hanging : Plan where
  collection := { limit := nanosPerSecond, sources := fun _ _ => ⟨none, .error []⟩ }
  delivery := { peer := { opening := fun _ => {}, sending := fun _ _ => { after := none } } }

/-- An agent with one snapshot, at the beginning. -/
def laden : Agent :=
  start { hub := (Hub.start 0 10).offerAll [.bare 1] } none (some nanosPerSecond)

/-- The same, after it has been sending that snapshot for half a second. -/
def stuck : Agent := laden.runUntil hanging 10 (nanosPerSecond / 2)

theorem ends_here_stuck :
    stuck.Sends (.bare 1) ∧ stuck.session.courier.state = .connected ∧ stuck.Suspended ∧
      stuck.EndsHere hanging := by
  have begun : Reached hanging laden (laden.advance hanging (some (nanosPerSecond / 2)) 10) :=
    Reached.start.advance _ 10
  have underway := begun.underway (underway_start rfl none nanosPerSecond) rfl
  have dated := begun.dated (dated_start _ none (some nanosPerSecond))
  have rests : (laden.advance hanging (some (nanosPerSecond / 2)) 10).step? hanging
      (some (nanosPerSecond / 2)) = none := rfl
  have suspended : stuck.Suspended :=
    suspended_waitUntil dated underway rfl (show 0 < nanosPerSecond / 2 by decide) rests
  refine ⟨⟨_, rfl, .backlog none, rfl⟩, rfl, suspended, ?_⟩
  exact ends_here (by decide) (begun.wait (nanosPerSecond / 2)) rfl suspended

end Agent

end NodeTelemetry
