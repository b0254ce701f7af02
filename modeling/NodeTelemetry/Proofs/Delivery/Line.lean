/-
# Lines

Getting a stream and losing it again leaves marks in the journal: a stream was asked for,
the relay accepted or refused, a send broke. A line is what there is to say about this
side of a courier: its clock, the numbering of its requests, its delays, what it holds and
the marks so far. Snapshots do not show in it, so each function of a courier comes down to
one of a few moves, and most of them to none.
-/

import NodeTelemetry.Proofs.Delivery.CallingOff

namespace NodeTelemetry

open Delivery

/-- What marks a course of delivery. Rounds are not in the journal. -/
inductive Mark where
  /-- A round of delivery begins. -/
  | round
  /-- The relay is asked for a stream. -/
  | asked (attempt : Nat)
  | accepted (attempt : Nat)
  | refused (attempt : Nat)
  /-- A send on the stream fails. -/
  | broke (stream : Nat)
  deriving DecidableEq

/-- The mark that an event leaves. -/
def Event.mark? : Event → Option Mark
  | .opening attempt => some (.asked attempt)
  | .opened attempt => some (.accepted attempt)
  | .refused attempt => some (.refused attempt)
  | .sendFailed stream _ => some (.broke stream)
  | _ => none

/-- The marks in a journal, with their moments. -/
def Journal.marks (journal : Journal) : List (Nat × Mark) :=
  journal.filterMap fun (nanos, event) => event.mark?.map (nanos, ·)

/-! ## Marks of a hub -/

namespace Hub

variable (hub : Hub) {event : Event}

def marks (hub : Hub) : List (Nat × Mark) := hub.journal.marks

theorem marks_note_mark {mark : Mark} (leaves : event.mark? = some mark) :
    (hub.note event).marks = hub.marks ++ [(hub.now, mark)] := by
  simp [marks, note, Journal.marks, leaves]

theorem marks_note (unmarked : event.mark? = none) : (hub.note event).marks = hub.marks := by
  simp [marks, note, Journal.marks, unmarked]

theorem marks_append (unmarked : event.mark? = none) (snapshot : Snapshot) :
    (hub.append event snapshot).marks = hub.marks := by
  unfold append
  obtain ⟨evicted, backlog⟩ := hub.backlog.add snapshot
  cases evicted with
  | none => exact hub.marks_note unmarked
  | some lost => exact (marks_note _ rfl).trans (hub.marks_note unmarked)

theorem marks_offer (snapshot : Snapshot) : (hub.offer snapshot).2.marks = hub.marks := by
  unfold offer
  obtain ⟨evicted, backlog⟩ := hub.backlog.add snapshot
  cases evicted with
  | none => exact hub.marks_note rfl
  | some lost => exact (marks_note _ rfl).trans (hub.marks_note rfl)

theorem marks_offerAll (snapshots : List Snapshot) :
    (hub.offerAll snapshots).marks = hub.marks := by
  induction snapshots generalizing hub with
  | nil => rfl
  | cons snapshot later ih => exact (ih _).trans (hub.marks_offer snapshot)

theorem marks_take : hub.take.2.marks = hub.marks := by
  unfold take
  obtain ⟨popped, backlog⟩ := hub.backlog.pop
  cases popped with
  | none => rfl
  | some snapshot => exact hub.marks_note rfl

theorem marks_putBack (snapshot : Snapshot) : (hub.putBack snapshot).marks = hub.marks := by
  unfold putBack
  cases hub.backlog.requeue? snapshot with
  | some backlog => rfl
  | none => exact hub.marks_note rfl

theorem marks_record (findings : Collection.Findings) (elapsed : Nat) :
    (Collection.record findings elapsed hub).marks = hub.marks := by
  have faulted : ∀ (faults : List Fault) (hub : Hub),
      (faults.foldl (fun hub fault => hub.note (.faulted fault)) hub).marks = hub.marks := by
    intro faults
    induction faults with
    | nil => exact fun hub => rfl
    | cons fault later ih => exact fun hub => (ih _).trans (hub.marks_note rfl)
  have added : ∀ hub : Hub,
      (hub.append (.arrived findings.snapshot) findings.snapshot).marks = hub.marks :=
    fun hub => hub.marks_append rfl findings.snapshot
  exact (marks_note _ rfl).trans ((added _).trans (faulted findings.faults hub))

theorem now_offer (snapshot : Snapshot) : (hub.offer snapshot).2.now = hub.now :=
  hub.now_offerAll [snapshot]

end Hub

/-! ## Lines and their moves -/

namespace Delivery

/-- What a courier has of a stream. -/
inductive Hold where
  | nothing
  /-- A request that was not answered yet. -/
  | request
  /-- A delay to sit out. -/
  | pause
  | stream (attempt : Nat)
  /-- Nothing, and no request will be made any more. -/
  | ended
  deriving DecidableEq

def Link.hold : Link → Hold
  | .disconnected => .nothing
  | .connecting => .request
  | .backoff _ => .pause
  | .connected stream => .stream stream.attempt
  | .terminated => .ended

structure Line where
  now : Nat
  /-- Requests so far. -/
  attempts : Nat
  backoff : Backoff
  hold : Hold
  marks : List (Nat × Mark)

namespace Line

/-- What can happen to a line. -/
inductive Move where
  | stay
  /-- Time passes. -/
  | pass (moment : Nat)
  | ask
  | accept
  /-- The relay refuses; if delivery was called off, that is the end. -/
  | refuse (cancelled : Bool)
  /-- The stream breaks. -/
  | lose
  /-- The stream or the attempts to get one are given up for good. -/
  | leave

variable (line : Line)

/-- Make a mark. -/
def mark (mark : Mark) : Line := { line with marks := line.marks ++ [(line.now, mark)] }

def apply (line : Line) : Move → Line
  | .stay => line
  | .pass moment => { line with now := max line.now moment }
  | .ask =>
    { line.mark (.asked (line.attempts + 1)) with attempts := line.attempts + 1, hold := .request }
  | .accept =>
    { line.mark (.accepted line.attempts) with
      backoff := line.backoff.reset, hold := .stream line.attempts }
  | .refuse cancelled =>
    { line.mark (.refused line.attempts) with
      backoff := line.backoff.advance, hold := if cancelled then .ended else .pause }
  | .lose =>
    match line.hold with
    | .stream attempt => { line.mark (.broke attempt) with hold := .nothing }
    | _ => line
  | .leave => { line with hold := .ended }

theorem apply_lose {attempt : Nat} (held : line.hold = .stream attempt) :
    line.apply .lose = { line.mark (.broke attempt) with hold := .nothing } := by
  unfold apply
  rw [held]

/-- Without a stream there is nothing to lose. -/
theorem apply_lose_of_ne (noStream : ∀ attempt, line.hold ≠ .stream attempt) :
    line.apply .lose = line := by
  unfold apply
  cases held : line.hold with
  | stream attempt => exact absurd held (noStream attempt)
  | _ => rfl

end Line

namespace Courier

def line (courier : Courier) : Line where
  now := courier.hub.now
  attempts := courier.attempts
  backoff := courier.backoff
  hold := courier.link.hold
  marks := courier.hub.marks

variable (courier : Courier) {cancelled : Bool} {event : Event}

theorem line_note (unmarked : event.mark? = none) : (courier.note event).line = courier.line :=
  congrArg (fun marks => { courier.line with marks }) (courier.hub.marks_note unmarked)

theorem line_note_mark {mark : Mark} (leaves : event.mark? = some mark) :
    (courier.note event).line = courier.line.mark mark :=
  congrArg (fun marks => { courier.line with marks }) (courier.hub.marks_note_mark leaves)

theorem line_move (target : Link) :
    (courier.move target).line = { courier.line with hold := target.hold } :=
  congrArg (fun line => { line with hold := target.hold }) (courier.line_note rfl)

/-! ## Tasks -/

/-- What happens to the backlog does not show, as long as it leaves no mark. -/
theorem line_hub {hub : Hub} (now : hub.now = courier.hub.now)
    (marks : hub.marks = courier.hub.marks) :
    ({ courier with hub } : Courier).line = courier.line := by
  unfold line
  simp only [now, marks]

theorem line_giveUp (fresh : Option Snapshot) : (courier.giveUp fresh).1.line = courier.line := by
  cases fresh <;> rfl

theorem line_endTurn (turn : Turn) : (courier.endTurn turn).1.line = courier.line := by
  cases turn with
  | backlog fresh => exact courier.line_giveUp fresh
  | fresh => rfl

theorem line_send (snapshot : Snapshot) (turn : Turn) :
    (courier.send snapshot turn).1.line = courier.line := by
  unfold send
  cases link : courier.link with
  | connected stream =>
      have noted := courier.line_note (show (Event.sending stream.attempt snapshot).mark? = none
        from rfl)
      rw [← noted]
      unfold line
      simp only [note, link]
      rfl
  | _ => rfl

theorem line_drain (fresh : Option Snapshot) :
    (courier.drain cancelled fresh).1.line = courier.line := by
  unfold drain
  split
  · exact courier.line_giveUp fresh
  · obtain ⟨oldest, backlog⟩ := courier.hub.backlog.pop
    cases oldest with
    | some snapshot => exact line_send { courier with hub := { courier.hub with backlog } } _ _
    | none =>
        cases fresh with
        | some snapshot => exact courier.line_send snapshot .fresh
        | none => rfl

theorem line_perform (task : Task) : (courier.perform cancelled task).1.line = courier.line := by
  cases task with
  | drain fresh => exact courier.line_drain fresh
  | putBack snapshot turn =>
      exact (line_endTurn _ turn).trans
        (courier.line_hub (Hub.now_putBack _ snapshot) (Hub.marks_putBack _ snapshot))
  | keep snapshot =>
      exact courier.line_hub (Hub.now_append _ _ snapshot) (Hub.marks_append _ rfl snapshot)

theorem line_settle (result : Courier × Progress) :
    (settle cancelled result).1.line = result.1.line := by
  have worked : ∀ result : Courier × Progress, (work cancelled result).1.line = result.1.line := by
    rintro ⟨courier, progress⟩
    cases progress with
    | working task => exact courier.line_perform task
    | _ => rfl
  exact (worked _).trans ((worked _).trans (worked result))

/-! ## Connecting -/

theorem line_proceed (call : Call) : (courier.proceed call).1.line = courier.line := by
  cases call <;> rfl

theorem line_terminate (call : Call) :
    (courier.terminate call).1.line = courier.line.apply .leave :=
  (line_giveUp _ call.fresh).trans (courier.line_move .terminated)

/-- A request is made unless delivery was called off. -/
def requesting (cancelled : Bool) : Line.Move := if cancelled then .leave else .ask

/-- A courier asks once it has set out, or when it tries again. -/
theorem line_move_attempt (call : Call) :
    ((courier.move .connecting).attempt cancelled call).1.line =
      courier.line.apply (requesting cancelled) := by
  have counted : ((courier.move .connecting).note .attempted).line =
      { courier.line with hold := .request } :=
    (line_note _ rfl).trans (courier.line_move .connecting)
  unfold attempt
  cases cancelled with
  | true =>
      refine (line_terminate _ call).trans ?_
      rw [counted]
      rfl
  | false =>
      have asked : (((courier.move .connecting).note .attempted).note
          (.opening (courier.attempts + 1))).line =
          ({ courier.line with hold := .request } : Line).mark (.asked (courier.attempts + 1)) := by
        rw [line_note_mark _ rfl, counted]
      exact congrArg (fun line : Line => { line with attempts := courier.attempts + 1 }) asked

theorem line_pause {delay : Duration} (link : courier.link = .backoff delay) (call : Call) :
    (courier.pause cancelled delay call).1.line =
      { courier.line with hold := if cancelled then .ended else .pause } := by
  unfold pause
  cases cancelled with
  | true => exact courier.line_terminate call
  | false =>
      have held : courier.line.hold = .pause := congrArg Link.hold link
      change courier.line = { courier.line with hold := .pause }
      rw [← held]

/-- What a courier that has returned from its calls does about its line when it has to be
connected: it makes a request if it holds nothing. -/
def connecting (cancelled : Bool) : Hold → Line.Move
  | .nothing => requesting cancelled
  | _ => .stay

theorem line_connect (rests : courier.link.state ∈ LinkState.resting) (call : Call) :
    (courier.connect cancelled call).1.line =
      courier.line.apply (connecting cancelled courier.link.hold) := by
  unfold connect
  cases link : courier.link with
  | connected stream => exact courier.line_proceed call
  | terminated => exact courier.line_giveUp call.fresh
  | disconnected => exact courier.line_move_attempt call
  | connecting =>
      rw [link] at rests
      exact absurd rests (by decide)
  | backoff delay =>
      rw [link] at rests
      exact absurd rests (show LinkState.backoff ∉ LinkState.resting by decide)

theorem line_close : courier.close.1.line = courier.line.apply .leave := by
  have noted : ∀ event : Event, event.mark? = none →
      (note event { courier with link := .terminated }).line = courier.line.apply .leave :=
    fun event unmarked => line_note _ unmarked
  unfold close
  cases courier.link with
  | connected stream => exact noted _ rfl
  | _ => exact noted _ rfl

/-! ## Whole steps -/

/-- The move of a call that begins. -/
def starting (cancelled : Bool) (hold : Hold) : Call → Line.Move
  | .shutdown => .leave
  | _ => connecting cancelled hold

theorem line_start (rests : courier.link.state ∈ LinkState.resting) (call : Call) :
    (courier.start cancelled call).1.line =
      courier.line.apply (starting cancelled courier.link.hold call) := by
  cases call with
  | connect => exact courier.line_connect rests .connect
  | shutdown => exact courier.line_close
  | tick fresh =>
      cases fresh with
      | none => exact courier.line_connect rests (.tick none)
      | some snapshot =>
          have handedOver := courier.line_note (show (Event.handedOver snapshot).mark? = none
            from rfl)
          refine (@line_connect (courier.note (.handedOver snapshot)) cancelled rests _).trans ?_
          rw [handedOver]
          rfl

/-- The move with which a wait ends. -/
def ending (cancelled : Bool) (signal : Signal) : Wait → Line.Move
  | .opening _ =>
    match signal with
    | .cancelled => .leave
    | .done => .accept
    | .failed => .refuse cancelled
  | .backingOff .. => if signal = .cancelled then .leave else requesting cancelled
  | .sending .. => if signal = .failed then .lose else .stay
  | .closing => .stay

theorem line_answered (signal : Signal) (call : Call) :
    (courier.answered cancelled signal call).1.line =
      courier.line.apply (ending cancelled signal (.opening call)) := by
  cases signal with
  | cancelled => exact courier.line_terminate call
  | done =>
      have opened := courier.line_note_mark (show (Event.opened courier.attempts).mark? = _
        from rfl)
      refine (line_proceed _ call).trans ((line_move _ _).trans ?_)
      exact congrArg (fun line : Line => { line with
        backoff := courier.backoff.reset, hold := .stream courier.attempts }) opened
  | failed =>
      have refused := courier.line_note_mark (show (Event.refused courier.attempts).mark? = _
        from rfl)
      refine (line_pause _ rfl call).trans ?_
      rw [line_move]
      exact congrArg (fun line : Line => { line with
        backoff := courier.backoff.advance
        hold := if cancelled then .ended else .pause }) refused

theorem line_settled {stream : Stream} (link : courier.link = .connected stream)
    (signal : Signal) (snapshot : Snapshot) (turn : Turn) :
    (courier.settled signal snapshot turn).1.line =
      courier.line.apply (ending cancelled signal (.sending snapshot turn)) := by
  unfold settled
  simp only [link]
  cases signal with
  | cancelled => exact courier.line_note rfl
  | done => cases turn <;> exact courier.line_note rfl
  | failed =>
      have broke := courier.line_note_mark
        (show (Event.sendFailed stream.attempt snapshot).mark? = _ from rfl)
      refine (line_move _ .disconnected).trans ?_
      rw [broke]
      have held : courier.line.hold = .stream stream.attempt := congrArg Link.hold link
      change _ = Line.apply _ .lose
      unfold Line.apply
      rw [held]
      rfl

theorem line_resume {wait : Wait} (fits : courier.link.state ∈ (Progress.waiting wait).states)
    (signal : Signal) :
    (courier.resume cancelled signal wait).1.line =
      courier.line.apply (ending cancelled signal wait) := by
  cases wait with
  | opening call => exact courier.line_answered signal call
  | backingOff delay call =>
      cases signal with
      | cancelled => exact courier.line_terminate call
      | done => exact courier.line_move_attempt call
      | failed => exact courier.line_move_attempt call
  | sending snapshot turn =>
      obtain ⟨stream, link⟩ := Link.exists_stream (List.mem_singleton.mp fits)
      exact courier.line_settled link signal snapshot turn
  | closing => exact courier.line_note rfl

end Courier

end Delivery

end NodeTelemetry
