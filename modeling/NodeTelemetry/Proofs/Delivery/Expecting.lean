/-
# Doing what is to come

What a session and its deliverer do next is what the outlook says: an answer to the request
that is open, a request when the delay is over, nothing but rounds while there is a stream,
and nothing at all once the link is terminated. A session that is on time does not miss
the end of a delay.
-/

import NodeTelemetry.Proofs.Delivery.Delays
import NodeTelemetry.Proofs.Delivery.Outlook
import NodeTelemetry.Proofs.Delivery.Rounds
import NodeTelemetry.Proofs.Delivery.Waiting

namespace NodeTelemetry

open Delivery

namespace Delivery

/-! ## Lines and outlooks -/

namespace Line

variable (line : Line)

/-- The marks that a move leaves. -/
def news (line : Line) : Move → List (Nat × Mark)
  | .ask => [(line.now, .asked (line.attempts + 1))]
  | .accept => [(line.now, .accepted line.attempts)]
  | .refuse _ => [(line.now, .refused line.attempts)]
  | .lose =>
    match line.hold with
    | .stream attempt => [(line.now, .broke attempt)]
    | _ => []
  | _ => []

theorem marks_apply (move : Move) : (line.apply move).marks = line.marks ++ line.news move := by
  cases move with
  | lose => cases held : line.hold <;> simp [apply, news, held, Line.mark]
  | stay => exact (List.append_nil _).symm
  | pass moment => exact (List.append_nil _).symm
  | leave => exact (List.append_nil _).symm
  | _ => rfl

/-- The outlook fits what is held. Whether it fits a delay depends on the moment at which
the delay is over. -/
structure Awaits (line : Line) (outlook : Outlook) : Prop where
  round : line.hold = .nothing → outlook = .round
  answer : line.hold = .request → outlook = .answer line.attempts
  stream : ∀ attempt, line.hold = .stream attempt → outlook = .stream attempt

variable {line}

theorem awaits_of_nothing (held : line.hold = .nothing) : line.Awaits .round := by
  constructor <;> simp [held]

theorem awaits_of_request (held : line.hold = .request) :
    line.Awaits (.answer line.attempts) := by
  constructor <;> simp [held]

theorem awaits_of_stream {attempt : Nat} (held : line.hold = .stream attempt) :
    line.Awaits (.stream attempt) := by
  constructor <;> simp [held]

theorem awaits_of_ended (held : line.hold = .ended) (outlook : Outlook) :
    line.Awaits outlook := by
  constructor <;> simp [held]

theorem awaits_of_pause (held : line.hold = .pause) (outlook : Outlook) :
    line.Awaits outlook := by
  constructor <;> simp [held]

end Line

namespace Link

variable {link : Link}

theorem exists_delay_of_hold (held : link.hold = .pause) : ∃ delay, link = .backoff delay := by
  cases link with
  | backoff delay => exact ⟨delay, rfl⟩
  | _ => cases held

/-- Between two calls no request is open, and no delay is sat out. -/
theorem hold_of_resting (rests : link.state ∈ LinkState.resting) :
    link.hold ≠ .request ∧ link.hold ≠ .pause := by
  cases link with
  | connecting => exact absurd rests (by decide)
  | backoff delay => exact absurd rests (show LinkState.backoff ∉ LinkState.resting by decide)
  | _ => exact ⟨nofun, nofun⟩

end Link

/-! ## Sessions -/

namespace Session

variable {initial longest : Duration} {peer : Peer} {session next last : Session}
  {state target : Outlook × Nat} {first : List (Nat × Mark)} {move : Line.Move}
  {outlook : Outlook} {refusals : Nat} {pending : Pending}

def line (session : Session) : Line := session.courier.line

theorem line_absorb (result : Courier × Progress) :
    (session.absorb peer result).line = result.1.line :=
  Courier.line_settle result

/-- A session does what is to come next. -/
structure Expects (initial longest : Duration) (session : Session) (state : Outlook × Nat) :
    Prop where
  fits : session.traffic.Fits
  backoff : session.line.backoff = .after initial longest state.2
  awaits : session.line.Awaits state.1
  /-- A delay is over at the moment at which a request is to come, and that moment is not
  missed. -/
  pauses : session.line.hold = .pause → ∃ pending ∈ session.pending, ∃ due ∈ pending.due,
    session.now ≤ due ∧ state.1 = .pause due

/-- What becomes of a session leaves marks that were to come, and does what is to come
next. -/
def GoesOn (initial longest : Duration) (session : Session) (state : Outlook × Nat)
    (first : List (Nat × Mark)) (next : Session) : Prop :=
  ∃ news target, next.hub.marks = session.hub.marks ++ news ∧
    Outlook.read? (Backoff.delayNanos initial longest) (first ++ news) state = some target ∧
    next.Expects initial longest target

/-- Nothing shows. -/
theorem Expects.goesOn (expects : session.Expects initial longest state) :
    session.GoesOn initial longest state [] session :=
  ⟨[], state, (List.append_nil _).symm, rfl, expects⟩

/-- What comes before leaves no mark. -/
theorem GoesOn.since (goesOn : session.GoesOn initial longest state first next)
    {before : Session} (same : session.hub.marks = before.hub.marks) :
    before.GoesOn initial longest state first next := by
  obtain ⟨news, target, marks, reads, expects⟩ := goesOn
  exact ⟨news, target, marks.trans (congrArg (· ++ news) same), reads, expects⟩

/-- More can become of it later. -/
theorem GoesOn.trans (goesOn : session.GoesOn initial longest state first next)
    (later : ∀ target, next.Expects initial longest target →
      next.GoesOn initial longest target [] last) :
    session.GoesOn initial longest state first last := by
  obtain ⟨news, between, marks, reads, expects⟩ := goesOn
  obtain ⟨more, target, moreMarks, readsOn, expectsOn⟩ := later between expects
  refine ⟨news ++ more, target, ?_, ?_, expectsOn⟩
  · rw [moreMarks, marks, List.append_assoc]
  · rw [← List.append_assoc, Outlook.read?_append, reads]
    exact readsOn

/-- The hub may be changed, as long as the end of a delay is not missed. -/
theorem Expects.modifyHub (expects : session.Expects initial longest state)
    (change : Hub → Hub)
    (timely : ∀ pending ∈ session.pending, ∀ due ∈ pending.due,
      session.line.hold = .pause → session.now ≤ due → (change session.hub).now ≤ due) :
    (session.modifyHub change).Expects initial longest state := by
  obtain ⟨round, answer, stream⟩ := expects.awaits
  refine ⟨expects.fits, expects.backoff, ⟨round, answer, stream⟩, fun held => ?_⟩
  obtain ⟨pending, waits, due, ends, soon, comes⟩ := expects.pauses held
  exact ⟨pending, waits, due, ends, timely pending waits due ends held soon, comes⟩

theorem Expects.cancel (expects : session.Expects initial longest state) :
    session.cancel.Expects initial longest state :=
  ⟨expects.fits, expects.backoff, expects.awaits, expects.pauses⟩

/-! ### Moves -/

/-- One move of the line. -/
theorem goesOn_of_line (line : next.line = session.line.apply move)
    (fits : next.traffic.Fits)
    (reads : Outlook.read? (Backoff.delayNanos initial longest) (first ++ session.line.news move)
      state = some target)
    (backoff : (session.line.apply move).backoff = .after initial longest target.2)
    (awaits : (session.line.apply move).Awaits target.1)
    (pauses : (session.line.apply move).hold = .pause → ∃ pending ∈ next.pending,
      ∃ due ∈ pending.due, next.now ≤ due ∧ target.1 = .pause due) :
    session.GoesOn initial longest state first next := by
  refine ⟨session.line.news move, target, ?_, reads, ?_⟩
  · exact (congrArg Line.marks line).trans (session.line.marks_apply move)
  · rw [← line] at backoff awaits pauses
    exact ⟨fits, backoff, awaits, pauses⟩

/-- The line stays as it is; no delay is sat out. -/
theorem goesOn_of_stay (expects : session.Expects initial longest (outlook, refusals))
    (line : next.line = session.line.apply .stay) (fits : next.traffic.Fits)
    (reads : Outlook.read? (Backoff.delayNanos initial longest) first state =
      some (outlook, refusals))
    (noPause : session.line.hold ≠ .pause) :
    session.GoesOn initial longest state first next := by
  have news : Outlook.read? (Backoff.delayNanos initial longest)
      (first ++ session.line.news .stay) state = some (outlook, refusals) := by
    rw [← reads]
    exact congrArg (Outlook.read? _ · state) (List.append_nil first)
  exact goesOn_of_line line fits news expects.backoff expects.awaits
    fun held => absurd held noPause

/-- Once the link is terminated, nothing has to come. -/
theorem goesOn_of_leave (expects : session.Expects initial longest state)
    (line : next.line = session.line.apply .leave) (fits : next.traffic.Fits)
    (reads : Outlook.read? (Backoff.delayNanos initial longest) first state =
      some (outlook, state.2)) :
    session.GoesOn initial longest state first next := by
  have news : Outlook.read? (Backoff.delayNanos initial longest)
      (first ++ session.line.news .leave) state = some (outlook, state.2) := by
    rw [← reads]
    exact congrArg (Outlook.read? _ · state) (List.append_nil first)
  exact goesOn_of_line line fits news expects.backoff (Line.awaits_of_ended rfl _)
    fun paused => by cases paused

/-- A request that is to come now is made, unless delivery was called off. -/
theorem goesOn_of_requesting {cancelled : Bool}
    (expects : session.Expects initial longest state)
    (line : next.line = session.line.apply (Courier.requesting cancelled))
    (fits : next.traffic.Fits)
    (reads : Outlook.read? (Backoff.delayNanos initial longest) first state =
      some (outlook, state.2))
    (asks : outlook = .pause session.now ∨ outlook = .request session.now) :
    session.GoesOn initial longest state first next := by
  cases cancelled with
  | true => exact goesOn_of_leave expects line fits reads
  | false =>
      have asked : Outlook.read? (Backoff.delayNanos initial longest)
          [(session.now, .asked (session.line.attempts + 1))] (outlook, state.2) =
            some (.answer (session.line.attempts + 1), state.2) := by
        obtain rfl | rfl := asks
        · exact Outlook.read?_singleton (if_pos rfl)
        · exact Outlook.read?_singleton (if_pos rfl)
      have news : Outlook.read? (Backoff.delayNanos initial longest)
          (first ++ session.line.news .ask) state =
            some (.answer (session.line.attempts + 1), state.2) := by
        rw [Outlook.read?_append, reads]
        exact asked
      exact goesOn_of_line line fits news expects.backoff (Line.awaits_of_request rfl)
        fun paused => by cases paused

/-! ### Ends of waits -/

variable (peer)

/-- After a refusal the delay begins. -/
theorem pending_refused (goesOn : session.cancelled = false) (call : Call) :
    (session.absorb peer
        (session.courier.resume session.cancelled .failed (.opening call))).pending =
      some (schedule peer
        (session.courier.resume false .failed (.opening call)).1
        (.backingOff session.courier.backoff.nextDelay call)) := by
  unfold absorb
  rw [goesOn]
  rfl

/-- A request is refused, and the delay begins unless delivery was called off. -/
theorem Expects.refused {call : Call}
    (expects : session.Expects initial longest (.answer session.line.attempts, refusals))
    (line : (session.absorb peer
        (session.courier.resume session.cancelled .failed (.opening call))).line =
      session.line.apply (.refuse session.cancelled))
    (fits : (session.absorb peer
      (session.courier.resume session.cancelled .failed (.opening call))).traffic.Fits) :
    session.GoesOn initial longest (.answer session.line.attempts, refusals) []
      (session.absorb peer
        (session.courier.resume session.cancelled .failed (.opening call))) := by
  have reads : Outlook.read? (Backoff.delayNanos initial longest)
      ([] ++ session.line.news (.refuse session.cancelled))
      (.answer session.line.attempts, refusals) =
        some (.pause (session.now + Backoff.delayNanos initial longest refusals),
          refusals + 1) :=
    Outlook.read?_singleton (if_pos rfl)
  have backoff : session.line.backoff = .after initial longest refusals := expects.backoff
  have advanced : (session.line.apply (.refuse session.cancelled)).backoff =
      .after initial longest (refusals + 1) := by
    change session.line.backoff.advance = _
    rw [backoff]
    rfl
  cases cancelled : session.cancelled with
  | true =>
      have ended : (session.line.apply (.refuse session.cancelled)).hold = .ended :=
        if_pos cancelled
      rw [← cancelled]
      exact goesOn_of_line line fits reads advanced (Line.awaits_of_ended ended _)
        fun paused => absurd (ended.symm.trans paused) (by decide)
  | false =>
      have paused : (session.line.apply (.refuse session.cancelled)).hold = .pause :=
        if_neg (Bool.eq_false_iff.mp cancelled)
      have delay : session.courier.backoff.nextDelay.nanos =
          Backoff.delayNanos initial longest refusals := by
        rw [← Backoff.nanos_nextDelay_after]
        exact congrArg (·.nextDelay.nanos) backoff
      have now := congrArg Line.now line
      have waits := pending_refused peer cancelled call
      rw [← cancelled]
      refine goesOn_of_line line fits reads advanced (Line.awaits_of_pause paused _)
        fun _ => ⟨_, waits, _, rfl, ?_, ?_⟩
      · exact Nat.le_trans (Nat.le_of_eq now) (Nat.le_add_right _ _)
      · exact congrArg (fun nanos => Outlook.pause (session.now + nanos)) delay.symm

/-- A request is answered. -/
theorem Expects.answered {call : Call}
    (expects : session.Expects initial longest (outlook, refusals))
    (held : session.line.hold = .request) (signal : Signal)
    (line : (session.absorb peer
        (session.courier.resume session.cancelled signal (.opening call))).line =
      session.line.apply (Courier.ending session.cancelled signal (.opening call)))
    (fits : (session.absorb peer
      (session.courier.resume session.cancelled signal (.opening call))).traffic.Fits) :
    session.GoesOn initial longest (outlook, refusals) []
      (session.absorb peer
        (session.courier.resume session.cancelled signal (.opening call))) := by
  obtain rfl : outlook = .answer session.line.attempts := expects.awaits.answer held
  cases signal with
  | cancelled => exact goesOn_of_leave expects line fits rfl
  | failed => exact expects.refused peer line fits
  | done =>
      have reads : Outlook.read? (Backoff.delayNanos initial longest)
          ([] ++ session.line.news .accept) (.answer session.line.attempts, refusals) =
            some (.stream session.line.attempts, 0) :=
        Outlook.read?_singleton (if_pos rfl)
      have reset : (session.line.apply .accept).backoff = .after initial longest 0 := by
        change session.line.backoff.reset = _
        rw [expects.backoff, Backoff.reset_after]
      exact goesOn_of_line line fits reads reset (Line.awaits_of_stream rfl)
        fun paused => by cases paused

/-- The wait of a call ends. A delay ends when it is over, unless delivery was called off. -/
theorem Expects.answer (expects : session.Expects initial longest state)
    (waits : session.pending = some pending) (signal : Signal)
    (timely : session.line.hold = .pause → signal ≠ .cancelled →
      pending.due = some session.now) :
    session.GoesOn initial longest state []
      (session.absorb peer (session.courier.resume session.cancelled signal pending.wait)) := by
  have linkFits := fits_of_waits expects.fits waits
  have fits := (@passage_absorb peer session _ _ _ _ (Courier.leaves_resume linkFits)
    (List.subset_append_right signal.dealings (begun session.cancelled))).2
  have line := (@line_absorb peer session _).trans
    (@Courier.line_resume session.courier session.cancelled _ linkFits signal)
  obtain ⟨outlook, refusals⟩ := state
  cases wait : pending.wait with
  | opening call =>
      rw [wait] at linkFits fits line
      have held : session.line.hold = .request :=
        congrArg Link.hold (Link.eq_connecting (List.mem_singleton.mp linkFits))
      exact expects.answered peer held signal line fits
  | backingOff delay call =>
      rw [wait] at linkFits fits line
      obtain ⟨delay, link⟩ := Link.exists_delay (List.mem_singleton.mp linkFits)
      have held : session.line.hold = .pause := congrArg Link.hold link
      by_cases interrupted : signal = .cancelled
      · subst interrupted
        exact goesOn_of_leave expects line fits rfl
      · obtain ⟨paused, stillWaits, due, ends, soon, rfl⟩ := expects.pauses held
        obtain rfl : pending = paused := Option.some.inj (waits.symm.trans stillWaits)
        obtain rfl : session.now = due :=
          Option.some.inj ((timely held interrupted).symm.trans ends)
        have asks : Courier.ending session.cancelled signal (.backingOff delay call) =
            Courier.requesting session.cancelled := if_neg interrupted
        exact goesOn_of_requesting expects (line.trans (congrArg _ asks)) fits rfl (.inl rfl)
  | sending snapshot turn =>
      rw [wait] at linkFits fits line
      obtain ⟨stream, link⟩ := Link.exists_stream (List.mem_singleton.mp linkFits)
      have held : session.line.hold = .stream stream.attempt := congrArg Link.hold link
      by_cases broke : signal = .failed
      · subst broke
        obtain rfl : outlook = .stream stream.attempt := expects.awaits.stream _ held
        have lost := session.line.apply_lose held
        have reads : Outlook.read? (Backoff.delayNanos initial longest)
            ([] ++ session.line.news .lose) (.stream stream.attempt, refusals) =
              some (.round, refusals) := by
          unfold Line.news
          rw [held]
          exact Outlook.read?_singleton (if_pos rfl)
        have nothing : (session.line.apply .lose).hold = .nothing := congrArg Line.hold lost
        exact goesOn_of_line line fits reads ((congrArg Line.backoff lost).trans expects.backoff)
          (Line.awaits_of_nothing nothing)
          fun paused => absurd (nothing.symm.trans paused) (by decide)
      · have stays : Courier.ending session.cancelled signal (.sending snapshot turn) = .stay :=
          if_neg broke
        refine goesOn_of_stay expects (line.trans (congrArg _ stays)) fits rfl fun paused => ?_
        cases held.symm.trans paused
  | closing =>
      rw [wait] at linkFits fits line
      have held : session.line.hold = .ended :=
        congrArg Link.hold (Link.eq_terminated (List.mem_singleton.mp linkFits))
      exact goesOn_of_stay expects line fits rfl
        fun paused => absurd (held.symm.trans paused) (by decide)

/-! ### Steps -/

theorem marks_arrive (moment : Nat) (arrivals : List Snapshot) (session : Session) :
    (session.arrive moment arrivals).hub.marks = session.hub.marks :=
  Hub.marks_offerAll (session.hub.waitUntil moment) arrivals

theorem now_arrive (moment : Nat) (arrivals : List Snapshot) (session : Session) :
    (session.arrive moment arrivals).now = max session.now moment :=
  Hub.now_offerAll (session.hub.waitUntil moment) arrivals

/-- The wait of a call ends by itself. -/
theorem Expects.arrive (expects : session.Expects initial longest state)
    (waits : session.pending = some pending) {due : Nat} (ends : pending.due = some due)
    (arrivals : List Snapshot) :
    (session.arrive due arrivals).Expects initial longest state ∧
      (session.line.hold = .pause → (session.arrive due arrivals).now = due) := by
  have onTime : session.now ≤ due → (session.arrive due arrivals).now = due :=
    fun soon => (now_arrive due arrivals session).trans (Nat.max_eq_right soon)
  have same : ∀ paused ∈ session.pending, ∀ moment ∈ paused.due, due = moment := by
    intro paused stillWaits moment stillEnds
    obtain rfl : pending = paused := Option.some.inj (waits.symm.trans stillWaits)
    exact Option.some.inj (ends.symm.trans stillEnds)
  refine ⟨expects.modifyHub _ fun paused stillWaits moment stillEnds held soon => ?_,
    fun held => ?_⟩
  · obtain rfl := same paused stillWaits moment stillEnds
    exact Nat.le_of_eq (onTime soon)
  · obtain ⟨paused, stillWaits, moment, stillEnds, soon, -⟩ := expects.pauses held
    obtain rfl := same paused stillWaits moment stillEnds
    exact onTime soon

theorem Expects.step (expects : session.Expects initial longest state) :
    session.GoesOn initial longest state [] (session.step peer) := by
  unfold Session.step
  cases waits : session.pending with
  | none => exact expects.goesOn
  | some pending =>
      simp only
      split
      · exact expects.answer peer waits .cancelled fun _ interrupted => absurd rfl interrupted
      · cases ends : pending.due with
        | none => exact expects.goesOn
        | some due =>
            obtain ⟨arrived, onTime⟩ := expects.arrive waits ends pending.arrivals
            have stillWaits : (session.arrive due pending.arrivals).pending = some pending := waits
            have answered := arrived.answer peer stillWaits pending.signal
              fun held _ => ends.trans (congrArg some (onTime held).symm)
            exact answered.since (marks_arrive due pending.arrivals session)

/-- When a delay is over, the next request is made. -/
theorem exists_asked_step (sound : session.Sound) (goesOn : session.cancelled = false)
    (waits : session.pending = some pending) {due : Nat} (ends : pending.due = some due)
    (soon : session.now ≤ due) (held : session.line.hold = .pause) :
    ∃ attempt, (session.step peer).hub.marks = session.hub.marks ++ [(due, .asked attempt)] ∧
      (session.step peer).pending.isSome := by
  have linkFits := fits_of_waits sound.fits waits
  obtain ⟨delay, link⟩ := Link.exists_delay_of_hold held
  rw [link] at linkFits
  have stepped := @step_of_due peer _ _ waits (not_interrupted_of_goesOn goesOn pending) _ ends
  cases wait : pending.wait with
  | backingOff delay call =>
      have asks : Courier.ending session.cancelled pending.signal (.backingOff delay call) =
          .ask :=
        (if_neg (sound.signal pending waits)).trans (if_neg (Bool.eq_false_iff.mp goesOn))
      have line : (session.step peer).line =
          (session.arrive due pending.arrivals).line.apply .ask := by
        rw [stepped, wait, ← asks]
        refine (line_absorb _).trans (Courier.line_resume _ ?_ _)
        exact List.mem_singleton.mpr (congrArg Link.state link)
      have marks : (session.step peer).hub.marks =
          (session.arrive due pending.arrivals).hub.marks ++
            [((session.arrive due pending.arrivals).now, .asked (session.courier.attempts + 1))] :=
        congrArg Line.marks line
      refine ⟨session.courier.attempts + 1, ?_, ?_⟩
      · rw [marks, marks_arrive, now_arrive, Nat.max_eq_right soon]
      · cases returned : (session.step peer).pending with
        | some pending => rfl
        | none =>
            -- A call that has returned leaves no request open.
            have rests := fits_of_free (@Sound.step peer _ sound goesOn).1.fits returned
            exact absurd (congrArg Line.hold line) (Link.hold_of_resting rests).1
  | _ =>
      rw [wait] at linkFits
      exact absurd (List.mem_singleton.mp linkFits) nofun

theorem fits_start (call : Call) :
    (session.start peer call).traffic.Fits := by
  have leaves := @Courier.leaves_start session.courier session.cancelled call
  refine (@passage_absorb peer session _ _ _ _ leaves ?_).2
  cases call with
  | shutdown => exact List.subset_cons_self _ _
  | _ => exact List.Subset.refl _

theorem line_start (fits : session.traffic.Fits) (free : session.pending = none) (call : Call) :
    (session.start peer call).line = session.line.apply
      (Courier.starting session.cancelled session.courier.link.hold call) :=
  (line_absorb _).trans (session.courier.line_start (fits_of_free fits free) call)

/-- Beginning a call takes no time. -/
theorem now_start (fits : session.traffic.Fits) (free : session.pending = none) (call : Call) :
    (session.start peer call).now = session.now := by
  refine (congrArg Line.now (line_start peer fits free call)).trans ?_
  cases call <;> cases session.courier.link <;> cases session.cancelled <;> rfl

/-- A round begins. -/
theorem Expects.start (expects : session.Expects initial longest state)
    (free : session.pending = none) (running : session.line.hold ≠ .ended) :
    session.GoesOn initial longest state [(session.now, .round)]
      (session.start peer (.tick none)) := by
  have rests := fits_of_free expects.fits free
  have fits := @fits_start peer session (.tick none)
  have line := line_start peer expects.fits free (.tick none)
  obtain ⟨outlook, refusals⟩ := state
  cases link : session.courier.link with
  | disconnected =>
      rw [link] at line
      obtain rfl : outlook = .round := expects.awaits.round (congrArg Link.hold link)
      exact goesOn_of_requesting expects line fits rfl (.inr rfl)
  | connected stream =>
      rw [link] at line
      have held : session.line.hold = .stream stream.attempt := congrArg Link.hold link
      obtain rfl : outlook = .stream stream.attempt := expects.awaits.stream _ held
      refine goesOn_of_stay expects line fits rfl fun paused => ?_
      cases held.symm.trans paused
  | terminated => exact absurd (congrArg Link.hold link) running
  | connecting => exact absurd (congrArg Link.hold link) (Link.hold_of_resting rests).1
  | backoff delay => exact absurd (congrArg Link.hold link) (Link.hold_of_resting rests).2

/-- The link is shut down. -/
theorem Expects.shutDown (expects : session.Expects initial longest state)
    (free : session.pending = none) :
    session.GoesOn initial longest state [] (session.start peer .shutdown) :=
  goesOn_of_leave expects (line_start peer expects.fits free .shutdown)
    (fits_start peer .shutdown) rfl

theorem ended_iff (session : Session) :
    session.line.hold = .ended ↔ session.courier.state = .terminated := by
  change session.courier.link.hold = _ ↔ session.courier.link.state = _
  cases session.courier.link <;> simp [Link.hold, Link.state]

end Session

/-! ## Deliverers -/

namespace Deliverer

variable {plan : Plan} {session next : Session} {deliverer : Deliverer}
  {result : Session × Deliverer} {initial longest : Duration} {state : Outlook × Nat}

/-- A deliverer between two rounds has no call running and can still deliver, and one that
has stopped has no call running. -/
structure InPhase (session : Session) (deliverer : Deliverer) : Prop where
  idle : deliverer.phase = .idle → session.pending = none ∧ session.line.hold ≠ .ended
  stopped : deliverer.phase = .stopped → session.pending = none

/-- A deliverer that sits out a delay is in a round, or is waiting to stop. -/
theorem InPhase.dueAt?_eq (inPhase : InPhase session deliverer)
    (waits : session.pending.isSome) : deliverer.dueAt? session = session.dueAt? := by
  unfold dueAt?
  cases phase : deliverer.phase with
  | idle =>
      rw [(inPhase.idle phase).1] at waits
      cases waits
  | stopped =>
      rw [inPhase.stopped phase] at waits
      cases waits
  | _ => rfl

/-- What a deliverer does to its session, with the round that it begins, if it does. -/
structure Proceeds (initial longest : Duration) (session : Session) (deliverer : Deliverer)
    (state : Outlook × Nat) (result : Session × Deliverer) : Prop where
  inPhase : InPhase result.1 result.2
  goesOn : result.2.rounds = deliverer.rounds ∧
      session.GoesOn initial longest state [] result.1 ∨
    result.2.rounds = deliverer.rounds + 1 ∧
      session.GoesOn initial longest state [(result.1.now, .round)] result.1

theorem inPhase_stop : InPhase (deliverer.stop plan session).1 (deliverer.stop plan session).2 := by
  unfold stop
  cases pending : (session.start plan.peer .shutdown).pending with
  | none => exact ⟨by simp [pending], fun _ => pending⟩
  | some waiting => exact ⟨by simp [pending], by simp [pending]⟩

theorem goesOn_survey (expects : session.Expects initial longest state) :
    session.GoesOn initial longest state [] (survey session) :=
  (expects.modifyHub _ fun _ _ _ _ _ soon => soon).goesOn.since (session.hub.marks_note rfl)

theorem inPhase_conclude :
    InPhase (deliverer.conclude plan session).1 (deliverer.conclude plan session).2 := by
  unfold conclude
  split
  · exact ⟨nofun, nofun⟩
  · rename_i returned
    have free := Option.not_isSome_iff_eq_none.mp returned
    simp only
    split
    · exact inPhase_stop
    · rename_i running
      exact ⟨fun _ => ⟨free, fun ended => running ((survey session).ended_iff.mp ended)⟩, nofun⟩

theorem rounds_conclude : (deliverer.conclude plan session).2.rounds = deliverer.rounds := by
  unfold conclude
  split
  · rfl
  · simp only
    split <;> rfl

/-- A round that is over leaves no mark, whether the deliverer stops after it or not, and
no time passes. -/
theorem goesOn_conclude (expects : session.Expects initial longest state) :
    session.GoesOn initial longest state [] (deliverer.conclude plan session).1 ∧
      (deliverer.conclude plan session).1.now = session.now := by
  unfold conclude
  split
  · exact ⟨expects.goesOn, rfl⟩
  · rename_i returned
    have free := Option.not_isSome_iff_eq_none.mp returned
    have surveyed := @goesOn_survey session _ _ _ expects
    simp only
    split
    · refine ⟨surveyed.trans fun _ expects => expects.shutDown plan.peer free, ?_⟩
      exact @Session.now_start plan.peer (survey session) expects.fits free .shutdown
    · exact ⟨surveyed, rfl⟩

theorem Proceeds.since (proceeds : Proceeds initial longest session deliverer state result)
    {before : Session} (same : session.hub.marks = before.hub.marks) :
    Proceeds initial longest before deliverer state result := by
  refine ⟨proceeds.inPhase, ?_⟩
  obtain ⟨rounds, goesOn⟩ | ⟨rounds, goesOn⟩ := proceeds.goesOn
  · exact .inl ⟨rounds, goesOn.since same⟩
  · exact .inr ⟨rounds, goesOn.since same⟩

/-- A round begins, and it may be over at once. -/
theorem proceeds_start (expects : session.Expects initial longest state)
    (free : session.pending = none) (running : session.line.hold ≠ .ended) :
    Proceeds initial longest session deliverer state (deliverer.start plan session) := by
  have begun := expects.start plan.peer free running
  have now := Session.now_start plan.peer expects.fits free (.tick none)
  let round : Deliverer :=
    { deliverer with
      ticker := deliverer.ticker.take session.now
      rounds := deliverer.rounds + 1 }
  refine ⟨inPhase_conclude, .inr ⟨rounds_conclude, ?_⟩⟩
  have noTime : (deliverer.start plan session).1.now = session.now := by
    obtain ⟨_, _, _, _, started⟩ := begun
    exact (@goesOn_conclude plan _ round _ _ _ started).2.trans now
  rw [noTime]
  exact begun.trans fun _ expects => (goesOn_conclude expects).1

theorem proceeds_stop (expects : session.Expects initial longest state)
    (free : session.pending = none) :
    Proceeds initial longest session deliverer state (deliverer.stop plan session) :=
  ⟨inPhase_stop, .inl ⟨rfl, expects.shutDown plan.peer free⟩⟩

/-- What a deliverer does is what is to come. -/
theorem proceeds_step (expects : session.Expects initial longest state)
    (inPhase : InPhase session deliverer) :
    Proceeds initial longest session deliverer state (deliverer.step plan session) := by
  unfold step
  cases phase : deliverer.phase with
  | stopped => exact ⟨inPhase, .inl ⟨rfl, expects.goesOn⟩⟩
  | idle =>
      obtain ⟨free, running⟩ := inPhase.idle phase
      simp only
      split
      · split
        · exact proceeds_start expects free running
        · exact proceeds_stop expects free
      · have later : (session.modifyHub (·.waitUntil deliverer.ticker.due)).Expects
            initial longest state := by
          refine expects.modifyHub _ fun pending waits => ?_
          rw [free] at waits
          cases waits
        exact (proceeds_start later free running).since rfl
  | delivering =>
      have stepped := expects.step plan.peer
      exact ⟨inPhase_conclude, .inl ⟨rounds_conclude,
        stepped.trans fun _ expects => (goesOn_conclude expects).1⟩⟩
  | stopping =>
      refine ⟨?_, .inl ⟨rfl, expects.step plan.peer⟩⟩
      simp only
      cases pending : (session.step plan.peer).pending with
      | none => exact ⟨by simp, fun _ => pending⟩
      | some waiting => exact ⟨by simp, by simp⟩

/-- A deliverer makes the next request when a delay is over. -/
theorem exists_asked_step (inPhase : InPhase session deliverer) (sound : session.Sound)
    (goesOn : session.cancelled = false) {pending : Pending}
    (waits : session.pending = some pending) {due : Nat} (ends : pending.due = some due)
    (soon : session.now ≤ due) (held : session.line.hold = .pause) :
    ∃ attempt, (deliverer.step plan session).1.hub.marks =
      session.hub.marks ++ [(due, .asked attempt)] := by
  obtain ⟨attempt, marks, stillWaits⟩ :=
    Session.exists_asked_step plan.peer sound goesOn waits ends soon held
  refine ⟨attempt, marks ▸ ?_⟩
  unfold step
  cases phase : deliverer.phase with
  | idle => cases waits.symm.trans (inPhase.idle phase).1
  | stopped => cases waits.symm.trans (inPhase.stopped phase)
  | stopping => rfl
  | delivering =>
      simp only [conclude]
      rw [if_pos stillWaits]

end Deliverer

end Delivery

end NodeTelemetry
