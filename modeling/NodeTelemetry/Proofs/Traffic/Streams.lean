/-
# Streams

Every stream that the relay opens is known by the number of the request that it answered,
and no number is used twice. So the journal tells what became of each stream: it breaks on
a send, or it is told to close, or it is the one that the link holds. Nothing happens on
a stream any more once it has broken or was told to close.
-/

import NodeTelemetry.Proofs.Delivery.Line
import NodeTelemetry.Proofs.Traffic.Diagram

namespace NodeTelemetry

open Delivery

/-! ## Numbers of streams -/

/-- The stream that is marked as accepted. -/
def Mark.accepted? : Mark → Option Nat
  | .accepted attempt => some attempt
  | _ => none

/-- The stream that an event opens. -/
def Event.opened? : Event → Option Nat
  | .opened attempt => some attempt
  | _ => none

/-- The streams that were opened, in order. -/
def Journal.opened (journal : Journal) : List Nat := journal.events.filterMap Event.opened?

theorem Journal.opened_eq (journal : Journal) :
    journal.opened = journal.marks.filterMap (·.2.accepted?) := by
  unfold opened events marks
  rw [List.filterMap_map, List.filterMap_filterMap]
  congr 1
  funext ⟨nanos, event⟩
  cases event <;> rfl

namespace Delivery.Line

def accepted (line : Line) : List Nat := line.marks.filterMap (·.2.accepted?)

/-- Requests are numbered, and so are the streams that they are answered with. -/
structure Numbered (line : Line) : Prop where
  distinct : line.accepted.Nodup
  bounded : ∀ attempt ∈ line.accepted, attempt ≤ line.attempts
  /-- A request that was not answered has a number of its own. -/
  unanswered : line.hold = .request → line.attempts ∉ line.accepted

variable {line : Line}

theorem accepted_mark (line : Line) (mark : Mark) :
    (line.mark mark).accepted = line.accepted ++ mark.accepted?.toList := by
  unfold accepted Line.mark
  rw [List.filterMap_append]
  cases mark <;> rfl

/-- Marks that accept nothing do not count. -/
theorem Numbered.of_accepted_eq {next : Line} (numbered : line.Numbered)
    (same : next.accepted = line.accepted) (onward : line.attempts ≤ next.attempts)
    (unanswered : next.hold = .request → next.attempts ∉ line.accepted) : next.Numbered := by
  refine ⟨?_, ?_, ?_⟩
  · rw [same]
    exact numbered.distinct
  · rw [same]
    exact fun attempt listed => Nat.le_trans (numbered.bounded attempt listed) onward
  · rw [same]
    exact unanswered

/-- Only a request can be accepted, and then no other one with its number. -/
theorem Numbered.apply (numbered : line.Numbered) (move : Move)
    (requested : move = .accept → line.hold = .request) : (line.apply move).Numbered := by
  have unmarked : ∀ mark : Mark, mark.accepted? = none →
      (line.mark mark).accepted = line.accepted := by
    intro mark accepts
    rw [accepted_mark, accepts, Option.toList_none, List.append_nil]
  cases move with
  | stay => exact numbered
  | pass moment => exact ⟨numbered.distinct, numbered.bounded, numbered.unanswered⟩
  | leave =>
      exact numbered.of_accepted_eq rfl (Nat.le_refl _) fun requested => by cases requested
  | ask =>
      refine numbered.of_accepted_eq (unmarked _ rfl) (Nat.le_succ _) fun _ listed => ?_
      exact Nat.not_succ_le_self _ (numbered.bounded _ listed)
  | accept =>
      have fresh := numbered.unanswered (requested rfl)
      have accepted : (line.apply .accept).accepted = line.accepted ++ [line.attempts] :=
        line.accepted_mark (.accepted line.attempts)
      refine ⟨?_, ?_, fun requested => by cases requested⟩
      · rw [accepted]
        exact List.concat_eq_append ▸ numbered.distinct.concat fresh
      · rw [accepted]
        intro attempt listed
        obtain earlier | latest := List.mem_append.mp listed
        · exact numbered.bounded attempt earlier
        · exact Nat.le_of_eq (List.mem_singleton.mp latest)
  | refuse cancelled =>
      refine numbered.of_accepted_eq (unmarked _ rfl) (Nat.le_refl _) fun requested => ?_
      cases cancelled <;> cases requested
  | lose =>
      by_cases noStream : ∀ attempt, line.hold ≠ .stream attempt
      · rw [apply_lose_of_ne line noStream]
        exact numbered
      · obtain ⟨attempt, held⟩ := Classical.not_forall.mp noStream
        rw [apply_lose line (Classical.not_not.mp held)]
        exact numbered.of_accepted_eq (unmarked _ rfl) (Nat.le_refl _)
          fun requested => by cases requested

end Delivery.Line

/-! ## Acts and lines -/

namespace Traffic

variable {origin traffic next : Traffic} {act : Act}

def line (traffic : Traffic) : Line := traffic.courier.line

/-- The move that an act makes with the line. -/
def dialing (traffic : Traffic) (act : Act) : Line.Move :=
  match act, traffic.progress with
  | .call cancelled call, _ => Courier.starting cancelled traffic.courier.link.hold call
  | .answer cancelled signal, .waiting wait => Courier.ending cancelled signal wait
  | .pass moment, _ => .pass moment
  | _, _ => .stay

/-- What an act does to the line is its move. -/
theorem line_step (fits : traffic.Fits) (step : Step traffic act next) :
    next.line = traffic.line.apply (traffic.dialing act) := by
  cases step with
  | @call courier success cancelled call => exact courier.line_start fits call
  | @work courier task cancelled => exact courier.line_perform task
  | @answer courier wait cancelled signal => exact courier.line_resume fits signal
  | record findings elapsed =>
      exact Courier.line_hub _ (Hub.now_record _ findings elapsed)
        (Hub.marks_record _ findings elapsed)
  | offer snapshot =>
      exact Courier.line_hub _ (Hub.now_offer _ snapshot) (Hub.marks_offer _ snapshot)
  | @remark _ event isRemark =>
      refine Courier.line_hub _ rfl (Hub.marks_note _ ?_)
      cases event <;> first | rfl | cases isRemark
  | pass moment => rfl

/-- Only a request is ever accepted. -/
theorem request_of_accept (fits : traffic.Fits) (step : Step traffic act next)
    (accepts : traffic.dialing act = .accept) : traffic.line.hold = .request := by
  cases step with
  | @call courier success cancelled call =>
      change Courier.starting cancelled courier.link.hold call = .accept at accepts
      generalize courier.link.hold = hold at accepts
      cases call <;> cases hold <;> cases cancelled <;> cases accepts
  | @answer courier wait cancelled signal =>
      cases wait with
      | opening call =>
          exact congrArg Link.hold (Link.eq_connecting (List.mem_singleton.mp fits))
      | _ => cases signal <;> cases cancelled <;> cases accepts
  | _ => cases accepts

namespace Run

variable {epoch : Int64} {capacity : Nat} {backoff : Backoff}

theorem line_numbered (run : Run origin traffic) (fits : origin.Fits)
    (numbered : origin.line.Numbered) : traffic.line.Numbered := by
  induction run with
  | start => exact numbered
  | extend run act step ih =>
      have fitting := (run.passage fits).2
      rw [line_step fitting step]
      exact ih.apply _ (request_of_accept fitting step)

theorem line_numbered_initial : (initial epoch capacity backoff).line.Numbered :=
  ⟨.nil, nofun, nofun⟩

end Run

end Traffic

/-! ## What becomes of streams -/

/-- The stream that an event is about. -/
def Event.stream? : Event → Option Nat
  | .opened stream | .sending stream _ | .sent stream _ | .sendFailed stream _
  | .sendAbandoned stream _ | .closing stream => some stream
  | _ => none

/-- The stream that an event ends: it has broken, or it is told to close. -/
def Event.ended? : Event → Option Nat
  | .sendFailed stream _ | .closing stream => some stream
  | _ => none

/-- Whether a stream breaks by an event. -/
def Event.isBreak : Event → Bool
  | .sendFailed .. => true
  | _ => false

theorem Event.stream?_of_ended? {event : Event} {stream : Nat}
    (ends : event.ended? = some stream) : event.stream? = some stream := by
  cases event <;> first | exact ends | cases ends

theorem Event.stream?_of_not_isLink {event : Event} (notLink : event.isLink = false) :
    event.stream? = none := by
  cases event <;> first | rfl | cases notLink

/-- What a list of events says about streams when one is held, or none. -/
structure KeepsTrack (events : List Event) (held : Option Nat) : Prop where
  /-- There are as many opened streams as there are that broke, that were told to close
  and that are held. -/
  balanced : (events.filterMap Event.opened?).length =
    events.countP Event.isBreak + events.countP Event.isClosing + held.toList.length
  /-- The stream that is held was opened and has not ended. -/
  current : ∀ stream ∈ held, stream ∈ events.filterMap Event.opened? ∧
    ∀ event ∈ events, event.ended? ≠ some stream
  /-- Streams have ended only after they were opened. -/
  opened : ∀ event ∈ events, ∀ stream, event.ended? = some stream →
    stream ∈ events.filterMap Event.opened?
  /-- An opened stream has ended unless it is held. -/
  left : ∀ stream ∈ events.filterMap Event.opened?, stream ∈ held ∨
    ∃ event ∈ events, event.ended? = some stream
  /-- Nothing happens on a stream that has ended. -/
  nothingAfter : events.Pairwise fun earlier later =>
    ∀ stream, earlier.ended? = some stream → later.stream? ≠ some stream

namespace KeepsTrack

variable {events : List Event} {held : Option Nat} {event : Event} {stream : Nat}

theorem empty : KeepsTrack [] none :=
  ⟨rfl, nofun, List.forall_mem_nil _, nofun, .nil⟩

/-- Something happens that opens and ends nothing. If it is about a stream, then about the
one that is held. -/
theorem note (track : KeepsTrack events held) (opens : event.opened? = none)
    (ends : event.ended? = none) (about : ∀ stream ∈ event.stream?, stream ∈ held) :
    KeepsTrack (events ++ [event]) held := by
  have same : (events ++ [event]).filterMap Event.opened? = events.filterMap Event.opened? := by
    rw [List.filterMap_append, List.filterMap_cons_none opens, List.filterMap_nil,
      List.append_nil]
  have unbroken : event.isBreak = false := by
    cases event <;> first | rfl | cases ends
  have unclosed : event.isClosing = false := by
    cases event <;> first | rfl | cases ends
  have unended : ∀ stream, event.ended? ≠ some stream := by
    intro stream
    rw [ends]
    nofun
  refine ⟨?_, ?_, ?_, ?_, ?_⟩
  · rw [same, track.balanced, List.countP_append, List.countP_append, List.countP_singleton,
      List.countP_singleton, unbroken, unclosed]
    rfl
  · rw [same]
    intro stream holds
    obtain ⟨opened, lasts⟩ := track.current stream holds
    refine ⟨opened, List.forall_mem_append.mpr ⟨lasts, ?_⟩⟩
    exact List.forall_mem_singleton.mpr (unended stream)
  · rw [same]
    refine List.forall_mem_append.mpr ⟨track.opened, List.forall_mem_singleton.mpr ?_⟩
    exact fun stream ended => absurd ended (unended stream)
  · rw [same]
    intro stream opened
    obtain holds | ⟨earlier, listed, ended⟩ := track.left stream opened
    · exact .inl holds
    · exact .inr ⟨earlier, List.mem_append_left _ listed, ended⟩
  · refine List.pairwise_append.mpr ⟨track.nothingAfter, List.pairwise_singleton _ _, ?_⟩
    intro earlier listed latest member stream ended on
    rw [List.mem_singleton.mp member] at on
    exact (track.current stream (about stream on)).2 earlier listed ended

/-- Something happens that is about no stream. -/
theorem aside (track : KeepsTrack events held) (silent : event.stream? = none) :
    KeepsTrack (events ++ [event]) held := by
  have opens : event.opened? = none := by
    cases event <;> first | rfl | cases silent
  have ends : event.ended? = none := by
    cases event <;> first | rfl | cases silent
  refine track.note opens ends fun stream on => ?_
  rw [silent] at on
  cases on

/-- A stream is opened while none is held. -/
theorem opening (track : KeepsTrack events none)
    (fresh : stream ∉ events.filterMap Event.opened?) :
    KeepsTrack (events ++ [.opened stream]) (some stream) := by
  have more : (events ++ [Event.opened stream]).filterMap Event.opened? =
      events.filterMap Event.opened? ++ [stream] := List.filterMap_append
  have unended : ∀ event ∈ events, event.ended? ≠ some stream :=
    fun event listed ended => fresh (track.opened event listed stream ended)
  refine ⟨?_, ?_, ?_, ?_, ?_⟩
  · rw [more, List.length_append, track.balanced, List.countP_append, List.countP_append]
    rfl
  · intro other holds
    cases holds
    rw [more]
    refine ⟨List.mem_append_right _ (List.mem_singleton_self _), ?_⟩
    refine List.forall_mem_append.mpr ⟨unended, List.forall_mem_singleton.mpr ?_⟩
    nofun
  · rw [more]
    intro event listed other ended
    obtain earlier | latest := List.mem_append.mp listed
    · exact List.mem_append_left _ (track.opened event earlier other ended)
    · rw [List.mem_singleton.mp latest] at ended
      cases ended
  · rw [more]
    intro other opened
    obtain earlier | latest := List.mem_append.mp opened
    · obtain holds | ⟨event, listed, ended⟩ := track.left other earlier
      · cases holds
      · exact .inr ⟨event, List.mem_append_left _ listed, ended⟩
    · exact .inl (congrArg some (List.mem_singleton.mp latest).symm)
  · refine List.pairwise_append.mpr ⟨track.nothingAfter, List.pairwise_singleton _ _, ?_⟩
    intro earlier listed latest member other ended on
    rw [List.mem_singleton.mp member] at on
    cases on
    exact unended earlier listed ended

/-- The stream that is held ends. -/
theorem ending (track : KeepsTrack events (some stream)) (ends : event.ended? = some stream) :
    KeepsTrack (events ++ [event]) none := by
  obtain ⟨wasOpened, lasted⟩ := track.current stream rfl
  have opens : event.opened? = none := by
    cases event <;> first | rfl | cases ends
  have same : (events ++ [event]).filterMap Event.opened? = events.filterMap Event.opened? := by
    rw [List.filterMap_append, List.filterMap_cons_none opens, List.filterMap_nil,
      List.append_nil]
  have counted : [event].countP Event.isBreak + [event].countP Event.isClosing = 1 := by
    cases event <;> first | rfl | cases ends
  refine ⟨?_, nofun, ?_, ?_, ?_⟩
  · rw [same, track.balanced, List.countP_append, List.countP_append]
    change _ + _ + 1 = _ + 0
    omega
  · rw [same]
    refine List.forall_mem_append.mpr ⟨track.opened, List.forall_mem_singleton.mpr ?_⟩
    intro other ended
    rw [ends] at ended
    cases ended
    exact wasOpened
  · rw [same]
    intro other opened
    have latest : event ∈ events ++ [event] := List.mem_append_right _ (List.mem_singleton_self _)
    obtain holds | ⟨earlier, listed, ended⟩ := track.left other opened
    · cases holds
      exact .inr ⟨event, latest, ends⟩
    · exact .inr ⟨earlier, List.mem_append_left _ listed, ended⟩
  · refine List.pairwise_append.mpr ⟨track.nothingAfter, List.pairwise_singleton _ _, ?_⟩
    intro earlier listed latest member other ended on
    rw [List.mem_singleton.mp member, Event.stream?_of_ended? ends] at on
    cases on
    exact lasted earlier listed ended

end KeepsTrack

namespace Delivery

/-- The stream that a link holds. -/
def Standing.stream? : Standing → Option Nat
  | .link (.connected stream) => some stream.attempt
  | _ => none

theorem Standing.stream?_of_not_connected {link : Link} (notConnected : link.state ≠ .connected) :
    (Standing.link link).stream? = none := by
  cases link with
  | connected stream => exact absurd rfl notConnected
  | _ => rfl

/-- A link that is connected holds a stream, and no other one does. -/
theorem Standing.length_stream? (standing : Standing) :
    standing.stream?.toList.length = if standing.state = .connected then 1 else 0 := by
  cases standing with
  | closing => rfl
  | link held => cases held <;> rfl

/-- A trail keeps track of streams, as long as no two of them have the same number. -/
theorem Trail.keepsTrack {allowed : List Dealing} {target : Standing} {events : List Event}
    (trail : Trail allowed (.link .disconnected) events target)
    (distinct : (events.filterMap Event.opened?).Nodup) :
    KeepsTrack events target.stream? := by
  induction trail with
  | rest => exact .empty
  | @step events more between target earlier latest ih =>
      rw [List.filterMap_append] at distinct
      have track := ih distinct.of_append_left
      cases latest with
      | aside notLink may => exact track.aside (Event.stream?_of_not_isLink notLink)
      | setOut => exact track.aside rfl
      | ask may attempt => exact track.aside rfl
      | accepted may attempt =>
          have fresh : attempt ∉ events.filterMap Event.opened? := fun listed =>
            List.disjoint_of_nodup_append distinct listed List.mem_cons_self
          rw [List.append_cons]
          exact (track.opening fresh).aside rfl
      | refused may attempt delay =>
          rw [List.append_cons]
          exact (track.aside rfl).aside rfl
      | retry delay => exact track.aside rfl
      | giveUp may => exact track.aside rfl
      | giveUpWaiting may delay => exact track.aside rfl
      | give may stream snapshot => exact track.note rfl rfl fun _ same => same
      | taken may stream snapshot => exact track.note rfl rfl fun _ same => same
      | broken may stream snapshot =>
          rw [List.append_cons]
          exact (track.ending rfl).aside rfl
      | abandon may stream snapshot => exact track.note rfl rfl fun _ same => same
      | close may stream => exact track.ending rfl
      | closed => exact track.aside rfl
      | leave may notConnected =>
          rw [Standing.stream?_of_not_connected notConnected] at track
          exact track.aside rfl

end Delivery

/-- The streams that were opened and have neither broken nor been told to close. -/
def Journal.openStreams (journal : Journal) : List Nat :=
  journal.opened.filter fun stream => !journal.events.any (·.ended? == some stream)

namespace Traffic

variable {traffic : Traffic}

/-- What a courier does about its streams. -/
structure KeepsStreams (traffic : Traffic) : Prop where
  /-- Each stream that was opened has broken, was told to close, or is held by the link. -/
  balanced : traffic.journal.opened.length =
    traffic.journal.events.countP Event.isBreak + traffic.journal.closes +
      if traffic.state = .connected then 1 else 0
  /-- No stream is opened twice. -/
  distinct : traffic.journal.opened.Nodup
  /-- There is no more than one stream, and none besides one that is closing. -/
  atMostOne : traffic.journal.openStreams.length +
    (if traffic.progress = .waiting .closing then 1 else 0) ≤ 1
  /-- Nothing happens on a stream once it has broken or was told to close. -/
  nothingAfter : traffic.journal.events.Pairwise fun earlier later =>
    ∀ stream, earlier.ended? = some stream → later.stream? ≠ some stream
  closedOnce : ∀ stream, traffic.journal.events.count (.closing stream) ≤ 1

/-- A stream that is told to close is never told again. -/
theorem count_closing {events : List Event}
    (nothingAfter : events.Pairwise fun earlier later =>
      ∀ stream, earlier.ended? = some stream → later.stream? ≠ some stream) (stream : Nat) :
    events.count (.closing stream) ≤ 1 := by
  refine Nat.le_of_not_lt fun twice => ?_
  have both := nothingAfter.sublist (List.replicate_sublist_iff.mpr twice)
  have again := (List.pairwise_cons.mp both).1 (.closing stream) List.mem_cons_self
  exact again stream rfl rfl

/-- No other stream is open than the one that is held. -/
theorem openStreams_subset {journal : Journal} {held : Option Nat}
    (track : KeepsTrack journal.events held) : journal.openStreams ⊆ held.toList := by
  intro stream listed
  obtain ⟨opened, lasts⟩ := List.mem_filter.mp listed
  obtain holds | ⟨event, happened, ended⟩ := track.left stream opened
  · exact Option.mem_toList.mpr holds
  · have some : journal.events.any (·.ended? == some stream) = true :=
      List.any_eq_true.mpr ⟨event, happened, beq_iff_eq.mpr ended⟩
    rw [some] at lasts
    cases lasts

namespace Run

variable {epoch : Int64} {capacity : Nat} {backoff : Backoff}

/-- Whatever is done, no stream is leaked, and none is used again. -/
theorem keeps_streams (run : Run (initial epoch capacity backoff) traffic) :
    traffic.KeepsStreams := by
  have numbered := run.line_numbered fits_initial line_numbered_initial
  have distinct : traffic.journal.opened.Nodup := by
    rw [Journal.opened_eq]
    exact numbered.distinct
  have track := run.trail.keepsTrack distinct
  have sameState := state_standing (run.passage fits_initial).2
  have isOpen : traffic.journal.openStreams.length ≤ traffic.standing.stream?.toList.length :=
    ((distinct.filter _).subperm (openStreams_subset track)).length_le
  refine ⟨?_, distinct, ?_, track.nothingAfter, count_closing track.nothingAfter⟩
  · rw [Journal.closes_eq, ← sameState, ← Standing.length_stream?]
    exact track.balanced
  · split
    · next closing =>
        have none : traffic.standing.stream? = none := by
          unfold standing
          rw [closing]
          rfl
        rw [none] at isOpen
        exact Nat.succ_le_succ isOpen
    · rw [Standing.length_stream?] at isOpen
      split at isOpen <;> omega

end Run

end Traffic

end NodeTelemetry
