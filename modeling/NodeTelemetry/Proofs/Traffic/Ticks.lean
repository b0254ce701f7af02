/-
# Ticks

A tick connects, sends the backlog from its oldest snapshot on, and then the fresh
snapshot. Each of these can be refused, break or be called off at any point, and what was
popped or handed over goes back to one end of the backlog or to the other. While nobody
else touches the backlog, all of this only moves a prefix: what was taken by the stream,
then what was lost, then what waits is what waited before, with the fresh snapshot at its
end.

What carries this is how a tick stands in between. As long as nothing was lost, the
taken snapshots, the one in flight and the waiting ones make up the old backlog, so a
snapshot that was popped finds its place free, and only keeping the fresh one can push
another one out. Whether delivery was called off so far decides nothing of this; it only
excuses a tick that ends without a failed send.
-/

import NodeTelemetry.Proofs.Delivery.Courier
import NodeTelemetry.Proofs.Traffic.Moves

namespace NodeTelemetry

open Delivery

/-- Whether an act leaves the backlog to the call that is going on: nobody adds to it, and
no other call begins. -/
def Act.leavesBacklog : Act → Bool
  | .call .. | .record .. | .offer _ => false
  | _ => true

/-- Whether delivery was called off when an act was done. -/
def Act.calledOff : Act → Bool
  | .call cancelled _ => cancelled
  | .work cancelled => cancelled
  | .answer cancelled signal => cancelled || signal == .cancelled
  | _ => false

namespace Traffic

variable {traffic next : Traffic} {act : Act}

/-- The end of a send, with the snapshot that was sent. -/
def settling (traffic : Traffic) (act : Act) : List (Snapshot × Signal) :=
  match act, traffic.progress with
  | .answer _ signal, .waiting (.sending snapshot _) => [(snapshot, signal)]
  | _, _ => []

/-- The acts of a run. -/
def Run.acts {origin : Traffic} (run : Run origin traffic) : List Act :=
  run.collect fun _ act => [act]

/-! ## How a tick stands -/

/-- What a tick has come to so far. -/
structure Tally where
  /-- Snapshots that a stream has taken. -/
  taken : List Snapshot := []
  /-- Snapshots that were lost. -/
  lost : List Snapshot := []
  /-- Sends that have ended. -/
  sends : List (Snapshot × Signal) := []

/-- The tally after one more act. -/
def Tally.after (traffic : Traffic) (act : Act) (tally : Tally) : Tally where
  taken := tally.taken ++ traffic.taking act
  lost := tally.lost ++ (traffic.losing act).map (·.1)
  sends := tally.sends ++ traffic.settling act

/-- The tally of a run. -/
def Run.tally {origin : Traffic} (run : Run origin traffic) : Tally where
  taken := run.collect taking
  lost := (run.collect losing).map (·.1)
  sends := run.collect settling

theorem Run.tally_extend {origin : Traffic} (run : Run origin traffic)
    (step : Step traffic act next) :
    (run.extend act step).tally = run.tally.after traffic act := by
  simp only [tally, collect, Tally.after, List.map_append]

namespace Tally

/-- Every send so far has succeeded, and the link is connected. -/
structure Smooth (tally : Tally) (state : LinkState) : Prop where
  sends : tally.sends = tally.taken.map (·, .done)
  state : state = .connected

/-- The latest send has failed and no other one, and the link is disconnected. -/
structure Broken (tally : Tally) (state : LinkState) : Prop where
  sends : ∃ snapshot, tally.sends = tally.taken.map (·, .done) ++ [(snapshot, .failed)]
  state : state = .disconnected

/-- Nothing was lost: a snapshot in flight is between the taken ones and those that still
wait. -/
structure Onward (before : Backlog Snapshot) (tally : Tally) (flying : Option Snapshot)
    (backlog : Backlog Snapshot) : Prop where
  unlost : tally.lost = []
  goods : tally.taken ++ flying.toList ++ backlog.toList = before.toList
  capacity : backlog.capacity = before.capacity

/-- A snapshot is sent in its turn: the fresh one comes last. -/
structure InTurn (before : Backlog Snapshot) (fresh : Option Snapshot) (tally : Tally)
    (snapshot : Snapshot) (turn : Turn) (backlog : Backlog Snapshot) : Prop where
  fresh : fresh = turn.fresh? snapshot
  onward : tally.Onward before (turn.popped? snapshot) backlog
  last : turn = .fresh → backlog.toList = []

/-- A tick has returned; `quiet` says that nothing but a failed send has kept it from
sending everything. -/
structure Closed (before : Backlog Snapshot) (fresh : Option Snapshot) (quiet : Prop)
    (tally : Tally) (backlog : Backlog Snapshot) (state : LinkState) : Prop where
  moved : tally.taken ++ tally.lost ++ backlog.toList = before.toList ++ fresh.toList
  lost_le : tally.lost.length ≤ 1
  lost_iff : tally.lost ≠ [] ↔ fresh ≠ none ∧ before.isFull ∧ tally.taken = []
  outcome : quiet → (tally.Smooth state ∧ backlog.toList = []) ∨ tally.Broken state

/-- How a tick stands at any point of its call. -/
def Stage (before : Backlog Snapshot) (fresh : Option Snapshot) (quiet : Prop)
    (tally : Tally) (backlog : Backlog Snapshot) (state : LinkState) : Progress → Prop
  | .waiting (.opening call) | .waiting (.backingOff _ call) =>
    call = .tick fresh ∧ tally = {} ∧ backlog = before
  | .waiting (.sending snapshot turn) =>
    tally.InTurn before fresh snapshot turn backlog ∧ tally.Smooth state
  | .waiting .closing => False
  | .working (.drain later) =>
    later = fresh ∧ tally.Onward before none backlog ∧ tally.Smooth state
  | .working (.putBack snapshot turn) =>
    tally.InTurn before fresh snapshot turn backlog ∧ (quiet → tally.Broken state)
  | .working (.keep snapshot) =>
    fresh = some snapshot ∧ tally.Onward before none backlog ∧ (quiet → tally.Broken state)
  | .returned _ => tally.Closed before fresh quiet backlog state

/-- How a tick stands after a step of its courier. -/
abbrev Stands (before : Backlog Snapshot) (fresh : Option Snapshot) (quiet : Prop)
    (tally : Tally) (result : Courier × Progress) : Prop :=
  tally.Stage before fresh quiet result.1.hub.backlog result.1.state result.2

variable {before backlog : Backlog Snapshot} {fresh : Option Snapshot} {quiet calm : Prop}
  {tally : Tally} {state : LinkState} {progress : Progress}

theorem onward_nil : ({} : Tally).Onward before none before := ⟨rfl, rfl, rfl⟩

theorem Closed.mono (closed : tally.Closed before fresh quiet backlog state)
    (still : calm → quiet) : tally.Closed before fresh calm backlog state :=
  { closed with outcome := fun hcalm => closed.outcome (still hcalm) }

/-- Something that was called off excuses more. -/
theorem Stage.mono (stage : tally.Stage before fresh quiet backlog state progress)
    (still : calm → quiet) : tally.Stage before fresh calm backlog state progress := by
  cases progress with
  | returned success => exact Closed.mono stage still
  | waiting wait => cases wait <;> exact stage
  | working task =>
      cases task with
      | drain later => exact stage
      | putBack snapshot turn =>
          obtain ⟨inTurn, broken⟩ := stage
          exact ⟨inTurn, fun hcalm => broken (still hcalm)⟩
      | keep snapshot =>
          obtain ⟨held, onward, broken⟩ := stage
          exact ⟨held, onward, fun hcalm => broken (still hcalm)⟩

/-- What is lost later does not change how the sends have ended. -/
theorem Broken.lose (broken : tally.Broken state) (snapshots : List Snapshot) :
    ({ tally with lost := tally.lost ++ snapshots } : Tally).Broken state :=
  ⟨broken.sends, broken.state⟩

/-- An act that ends no send and loses nothing does not show in the tally. -/
theorem after_eq (takes : traffic.taking act = []) (loses : traffic.losing act = [])
    (settles : traffic.settling act = []) : tally.after traffic act = tally := by
  simp only [after, takes, loses, settles, List.map_nil, List.append_nil]

/-! ## Returning -/

/-- The taken and the waiting snapshots are no more than fit. -/
theorem Onward.length_add (onward : tally.Onward before none backlog) :
    tally.taken.length + backlog.length = before.length := by
  have counted := congrArg List.length onward.goods
  simpa only [Option.toList_none, List.append_nil, List.length_append,
    Backlog.length_toList] using counted

/-- The backlog is full exactly if it was full before and nothing was taken. -/
theorem Onward.isFull_iff (onward : tally.Onward before none backlog) :
    backlog.isFull ↔ before.isFull ∧ tally.taken = [] := by
  have counted := onward.length_add
  have capacity := onward.capacity
  have fits := before.length_le_capacity
  rw [Backlog.isFull_iff, Backlog.isFull_iff, ← List.length_eq_zero_iff]
  constructor
  · intro full
    constructor <;> omega
  · rintro ⟨full, none⟩
    omega

/-- Without a fresh snapshot everything is in its place. -/
theorem Onward.closed (onward : tally.Onward before none backlog)
    (outcome : quiet → (tally.Smooth state ∧ backlog.toList = []) ∨ tally.Broken state) :
    tally.Closed before none quiet backlog state where
  moved := by
    rw [onward.unlost]
    simpa using onward.goods
  lost_le := by simp [onward.unlost]
  lost_iff := by simp [onward.unlost]
  outcome := outcome

/-- Keeping the fresh snapshot pushes the oldest one out of the backlog only if that is as
full as before the tick. -/
theorem closed_keep {snapshot : Snapshot} (onward : tally.Onward before none backlog)
    (broken : quiet → tally.Broken state) :
    ({ tally with lost := tally.lost ++ (backlog.add snapshot).1.toList } : Tally).Closed before
      (some snapshot) quiet (backlog.add snapshot).2 state := by
  have goods : tally.taken ++ backlog.toList = before.toList := by simpa using onward.goods
  have lost := fun hquiet => (broken hquiet).lose (backlog.add snapshot).1.toList
  by_cases full : backlog.isFull
  · obtain ⟨oldest, younger, waiting⟩ := Backlog.exists_oldest full
    obtain ⟨wasFull, noneTaken⟩ := onward.isFull_iff.mp full
    refine ⟨?_, ?_, ?_, fun hquiet => .inr (lost hquiet)⟩
    · rw [← goods, onward.unlost, Backlog.toList_add, Backlog.evicted_add, if_pos full,
        if_pos full, waiting]
      simp [noneTaken]
    · simp [onward.unlost, Backlog.evicted_add, full, waiting]
    · simp [onward.unlost, Backlog.evicted_add, full, waiting, wasFull, noneTaken]
  · have room : ¬(before.isFull ∧ tally.taken = []) := mt onward.isFull_iff.mpr full
    refine ⟨?_, ?_, ?_, fun hquiet => .inr (lost hquiet)⟩
    · rw [← goods, onward.unlost, Backlog.toList_add, Backlog.evicted_add, if_neg full,
        if_neg full]
      simp
    · simp [onward.unlost, Backlog.evicted_add, full]
    · simpa [onward.unlost, Backlog.evicted_add, full] using room

theorem stands_giveUp {courier : Courier}
    (onward : tally.Onward before none courier.hub.backlog)
    (broken : quiet → tally.Broken courier.state) :
    tally.Stands before fresh quiet (courier.giveUp fresh) := by
  cases fresh with
  | none => exact onward.closed fun hquiet => .inr (broken hquiet)
  | some snapshot => exact ⟨rfl, onward, broken⟩

/-! ## Sending -/

theorem stands_send {courier : Courier} {snapshot : Snapshot} {turn : Turn}
    (inTurn : tally.InTurn before fresh snapshot turn courier.hub.backlog)
    (smooth : tally.Smooth courier.state) :
    tally.Stands before fresh quiet (courier.send snapshot turn) := by
  obtain ⟨stream, hlink⟩ := Link.exists_stream smooth.state
  unfold Courier.send
  rw [hlink]
  exact ⟨inTurn, smooth.sends, rfl⟩

theorem stands_drain {courier : Courier} {cancelled : Bool}
    (onward : tally.Onward before none courier.hub.backlog)
    (smooth : tally.Smooth courier.state) (uncancelled : quiet → cancelled = false) :
    tally.Stands before fresh quiet (courier.drain cancelled fresh) := by
  unfold Courier.drain
  cases cancelled with
  | true => exact stands_giveUp onward fun hquiet => Bool.noConfusion (uncancelled hquiet)
  | false =>
      have popped := courier.hub.backlog.pop_cases
      have capacity := courier.hub.backlog.capacity_pop
      have goods : tally.taken ++ courier.hub.backlog.toList = before.toList := by
        simpa using onward.goods
      simp only [Bool.false_eq_true, if_false]
      generalize courier.hub.backlog.pop = result at popped capacity ⊢
      obtain ⟨oldest, backlog⟩ := result
      rcases popped with ⟨empty, rfl⟩ | ⟨snapshot, rfl, waiting⟩
      · cases fresh with
        | some snapshot => exact stands_send ⟨rfl, onward, fun _ => empty⟩ smooth
        | none => exact onward.closed fun _ => .inl ⟨smooth, empty⟩
      · have goods : tally.taken ++ [snapshot] ++ backlog.toList = before.toList := by
          rw [← goods, waiting, List.append_assoc, List.singleton_append]
        have onward : tally.Onward before (some snapshot) backlog :=
          ⟨onward.unlost, goods, capacity.trans onward.capacity⟩
        exact stands_send ⟨rfl, onward, nofun⟩ ⟨smooth.sends, smooth.state⟩

/-- A snapshot that was sent in its turn finds its place free. -/
theorem InTurn.room {snapshot : Snapshot} {turn : Turn}
    (inTurn : tally.InTurn before fresh snapshot turn backlog) : ¬backlog.isFull := by
  intro full
  have filled := Backlog.isFull_iff _ |>.mp full
  have capacity := inTurn.onward.capacity
  cases turn with
  | backlog later =>
      have counted := congrArg List.length inTurn.onward.goods
      have fits := before.length_le_capacity
      simp only [Turn.popped?, Option.toList_some, List.length_append, List.length_cons,
        List.length_nil, Backlog.length_toList] at counted
      omega
  | fresh =>
      obtain ⟨oldest, younger, waiting⟩ := Backlog.exists_oldest full
      exact absurd (inTurn.last rfl) (waiting ▸ List.cons_ne_nil _ _)

theorem stands_putBack {courier : Courier} {snapshot : Snapshot} {turn : Turn}
    (inTurn : tally.InTurn before fresh snapshot turn courier.hub.backlog)
    (broken : quiet → tally.Broken courier.state) :
    tally.Stands before fresh quiet ((courier.putBack snapshot).endTurn turn) := by
  obtain ⟨backlog, accepted, waiting, capacity⟩ :=
    Backlog.requeue?_of_room inTurn.room snapshot
  have putBack : (courier.putBack snapshot).hub = { courier.hub with backlog } := by
    simp only [Courier.putBack, Hub.putBack, accepted]
  have back : (courier.putBack snapshot).hub.backlog = backlog := by rw [putBack]
  obtain ⟨held, onward, last⟩ := inTurn
  have goods := onward.goods
  cases turn with
  | backlog later =>
      cases held
      refine stands_giveUp ⟨onward.unlost, ?_, ?_⟩ broken
      · rw [back, waiting, ← goods]
        simp [Turn.popped?]
      · rw [back, capacity, onward.capacity]
  | fresh =>
      cases held
      have empty := last rfl
      have taken : tally.taken = before.toList := by simpa [Turn.popped?, empty] using goods
      refine ⟨?_, ?_, ?_, fun hquiet => .inr (broken hquiet)⟩
      · rw [← taken, onward.unlost]
        change _ ++ (courier.putBack snapshot).hub.backlog.toList = _
        rw [back, waiting, empty, List.append_nil]
        rfl
      · simp [onward.unlost]
      · have notFull : before.isFull → tally.taken ≠ [] := by
          intro full
          obtain ⟨oldest, younger, waiting⟩ := Backlog.exists_oldest full
          rw [taken, waiting]
          exact List.cons_ne_nil _ _
        simpa [onward.unlost] using fun _ => notFull

section

variable {courier : Courier} {snapshot : Snapshot} {turn : Turn} {cancelled : Bool}
  {signal : Signal}

theorem after_done :
    tally.after ⟨courier, .waiting (.sending snapshot turn)⟩ (.answer cancelled .done) =
      { tally with
        taken := tally.taken ++ [snapshot]
        sends := tally.sends ++ [(snapshot, .done)] } := by
  simp only [after, taking, losing, settling, List.map_nil, List.append_nil]

theorem after_of_ne_done (unsent : signal ≠ .done) :
    tally.after ⟨courier, .waiting (.sending snapshot turn)⟩ (.answer cancelled signal) =
      { tally with sends := tally.sends ++ [(snapshot, signal)] } := by
  cases signal with
  | done => exact absurd rfl unsent
  | _ => simp only [after, taking, losing, settling, List.map_nil, List.append_nil]

theorem after_keep :
    tally.after ⟨courier, .working (.keep snapshot)⟩ (.work cancelled) =
      { tally with
        lost := tally.lost ++ (courier.hub.backlog.add snapshot).1.toList } := by
  simp [after, taking, losing, settling, hub, Function.comp_def]

/-- A send that takes nothing leaves its snapshot where it was. -/
theorem InTurn.settle (inTurn : tally.InTurn before fresh snapshot turn backlog)
    (signal : Signal) :
    ({ tally with sends := tally.sends ++ [(snapshot, signal)] } : Tally).InTurn before fresh
      snapshot turn backlog := by
  obtain ⟨held, onward, last⟩ := inTurn
  exact ⟨held, ⟨onward.unlost, onward.goods, onward.capacity⟩, last⟩

/-- A stream has taken the snapshot in flight. -/
theorem stands_settled_done
    (inTurn : tally.InTurn before fresh snapshot turn courier.hub.backlog)
    (smooth : tally.Smooth courier.state) :
    (tally.after ⟨courier, .waiting (.sending snapshot turn)⟩ (.answer cancelled .done)).Stands
      before fresh quiet (courier.settled .done snapshot turn) := by
  rw [after_done]
  obtain ⟨held, onward, last⟩ := inTurn
  have goods := onward.goods
  have sends : tally.sends ++ [(snapshot, Signal.done)] =
      (tally.taken ++ [snapshot]).map (·, .done) := by
    rw [smooth.sends, List.map_append]
    rfl
  cases turn with
  | backlog later =>
      cases held
      refine ⟨rfl, ⟨onward.unlost, ?_, onward.capacity⟩, sends, smooth.state⟩
      change tally.taken ++ [snapshot] ++ [] ++ courier.hub.backlog.toList = _
      simpa [Turn.popped?] using goods
  | fresh =>
      cases held
      have empty := last rfl
      have taken : tally.taken = before.toList := by simpa [Turn.popped?, empty] using goods
      refine ⟨?_, ?_, ?_, fun _ => .inl ⟨⟨sends, smooth.state⟩, empty⟩⟩
      · change tally.taken ++ [snapshot] ++ tally.lost ++ courier.hub.backlog.toList = _
        rw [onward.unlost, empty, List.append_nil, List.append_nil, taken]
        rfl
      · simp [onward.unlost]
      · simp [onward.unlost]

theorem stands_settled (signal : Signal) (uncancelled : quiet → signal ≠ .cancelled)
    (inTurn : tally.InTurn before fresh snapshot turn courier.hub.backlog)
    (smooth : tally.Smooth courier.state) :
    (tally.after ⟨courier, .waiting (.sending snapshot turn)⟩ (.answer cancelled signal)).Stands
      before fresh quiet (courier.settled signal snapshot turn) := by
  cases signal with
  | done => exact stands_settled_done inTurn smooth
  | failed =>
      have sends := congrArg (· ++ [(snapshot, Signal.failed)]) smooth.sends
      rw [after_of_ne_done (by decide)]
      exact ⟨inTurn.settle _, fun _ => ⟨⟨snapshot, sends⟩, rfl⟩⟩
  | cancelled =>
      rw [after_of_ne_done (by decide)]
      exact ⟨inTurn.settle _, fun hquiet => absurd rfl (uncancelled hquiet)⟩

end

/-! ## Connecting -/

section

variable (courier : Courier) {cancelled : Bool} {signal : Signal}

theorem stands_terminate (calledOff : ¬quiet) :
    ({} : Tally).Stands courier.hub.backlog fresh quiet (courier.terminate (.tick fresh)) :=
  stands_giveUp onward_nil fun hquiet => absurd hquiet calledOff

theorem stands_proceed (connected : courier.state = .connected) :
    ({} : Tally).Stands courier.hub.backlog fresh quiet (courier.proceed (.tick fresh)) :=
  ⟨rfl, onward_nil, rfl, connected⟩

theorem stands_attempt (uncancelled : quiet → cancelled = false) :
    ({} : Tally).Stands courier.hub.backlog fresh quiet
      (courier.attempt cancelled (.tick fresh)) := by
  cases cancelled with
  | true =>
      exact stands_terminate (courier.note .attempted) fun hquiet =>
        Bool.noConfusion (uncancelled hquiet)
  | false => exact ⟨rfl, rfl, rfl⟩

theorem stands_pause (uncancelled : quiet → cancelled = false) (delay : Duration) :
    ({} : Tally).Stands courier.hub.backlog fresh quiet
      (courier.pause cancelled delay (.tick fresh)) := by
  cases cancelled with
  | true => exact stands_terminate courier fun hquiet => Bool.noConfusion (uncancelled hquiet)
  | false => exact ⟨rfl, rfl, rfl⟩

theorem stands_connect (uncancelled : quiet → cancelled = false)
    (usable : quiet → courier.link ≠ .terminated) :
    ({} : Tally).Stands courier.hub.backlog fresh quiet
      (courier.connect cancelled (.tick fresh)) := by
  unfold Courier.connect
  cases hlink : courier.link with
  | connected stream => exact stands_proceed courier (congrArg Link.state hlink)
  | terminated => exact stands_giveUp onward_nil fun hquiet => absurd hlink (usable hquiet)
  | disconnected => exact stands_attempt (courier.move .connecting) uncancelled
  | connecting => exact stands_attempt courier uncancelled
  | backoff delay => exact stands_pause courier uncancelled delay

theorem stands_start (uncancelled : quiet → cancelled = false)
    (usable : quiet → courier.link ≠ .terminated) :
    ({} : Tally).Stands courier.hub.backlog fresh quiet
      (courier.start cancelled (.tick fresh)) := by
  cases fresh with
  | none => exact stands_connect courier uncancelled usable
  | some snapshot =>
      exact stands_connect (courier.note (.handedOver snapshot)) uncancelled usable

theorem stands_answered (uncancelled : quiet → cancelled = false)
    (signalled : quiet → signal ≠ .cancelled) :
    ({} : Tally).Stands courier.hub.backlog fresh quiet
      (courier.answered cancelled signal (.tick fresh)) := by
  cases signal with
  | cancelled => exact stands_terminate courier fun hquiet => signalled hquiet rfl
  | done =>
      exact stands_proceed
        (Courier.move (.connected ⟨courier.attempts, 0⟩)
          { courier.note (.opened courier.attempts) with backoff := courier.backoff.reset }) rfl
  | failed =>
      exact stands_pause
        (Courier.move (.backoff courier.backoff.nextDelay)
          { courier.note (.refused courier.attempts) with backoff := courier.backoff.advance })
        uncancelled _

theorem stands_resumed (uncancelled : quiet → cancelled = false)
    (signalled : quiet → signal ≠ .cancelled) (delay : Duration) :
    ({} : Tally).Stands courier.hub.backlog fresh quiet
      (courier.resume cancelled signal (.backingOff delay (.tick fresh))) := by
  cases signal with
  | cancelled => exact stands_terminate courier fun hquiet => signalled hquiet rfl
  | done => exact stands_attempt (courier.move .connecting) uncancelled
  | failed => exact stands_attempt (courier.move .connecting) uncancelled

end

/-! ## Whole steps -/

theorem stands_perform {courier : Courier} {task : Task} {cancelled : Bool}
    (uncancelled : quiet → cancelled = false)
    (stage : tally.Stands before fresh quiet (courier, .working task)) :
    (tally.after ⟨courier, .working task⟩ (.work cancelled)).Stands before fresh quiet
      (courier.perform cancelled task) := by
  cases task with
  | drain later =>
      obtain ⟨rfl, onward, smooth⟩ := stage
      rw [after_eq rfl rfl rfl]
      exact stands_drain onward smooth uncancelled
  | putBack snapshot turn =>
      obtain ⟨inTurn, broken⟩ := stage
      obtain ⟨backlog, accepted, -, -⟩ := Backlog.requeue?_of_room inTurn.room snapshot
      have loses :
          losing ⟨courier, .working (.putBack snapshot turn)⟩ (.work cancelled) = [] := by
        simp only [losing, hub, accepted]
      rw [after_eq rfl loses rfl]
      exact stands_putBack inTurn broken
  | keep snapshot =>
      obtain ⟨rfl, onward, broken⟩ := stage
      have kept : (courier.keep snapshot).hub.backlog = (courier.hub.backlog.add snapshot).2 := by
        exact congrArg Cargo.backlog
          (courier.hub.cargo_append (show (Event.kept snapshot).departs = false from rfl) snapshot)
      rw [after_keep]
      change Closed before _ quiet _ (courier.keep snapshot).hub.backlog courier.state
      rw [kept]
      exact closed_keep onward broken

theorem stands_resume {courier : Courier} {wait : Wait} {cancelled : Bool} {signal : Signal}
    (uncancelled : quiet → cancelled = false) (signalled : quiet → signal ≠ .cancelled)
    (stage : tally.Stands before fresh quiet (courier, .waiting wait)) :
    (tally.after ⟨courier, .waiting wait⟩ (.answer cancelled signal)).Stands before fresh quiet
      (courier.resume cancelled signal wait) := by
  cases wait with
  | opening call =>
      obtain ⟨rfl, rfl, rfl⟩ := stage
      rw [after_eq (by cases signal <;> rfl) rfl rfl]
      exact stands_answered courier uncancelled signalled
  | backingOff delay call =>
      obtain ⟨rfl, rfl, rfl⟩ := stage
      rw [after_eq (by cases signal <;> rfl) rfl rfl]
      exact stands_resumed courier uncancelled signalled delay
  | sending snapshot turn => exact stands_settled signal signalled stage.1 stage.2
  | closing => exact stage.elim

/-- How a tick stands, said of traffic. -/
abbrev StandsIn (before : Backlog Snapshot) (fresh : Option Snapshot) (quiet : Prop)
    (tally : Tally) (traffic : Traffic) : Prop :=
  tally.Stands before fresh quiet (traffic.courier, traffic.progress)

/-- An act that leaves the backlog to the call takes the tick from one point to another. -/
theorem stands_step (stands : tally.StandsIn before fresh quiet traffic)
    (step : Step traffic act next) (leaves : act.leavesBacklog = true) :
    (tally.after traffic act).StandsIn before fresh (quiet ∧ act.calledOff = false) next := by
  replace stands := stands.mono (And.left : quiet ∧ act.calledOff = false → quiet)
  cases step with
  | call cancelled call => cases leaves
  | record findings elapsed => cases leaves
  | offer snapshot => cases leaves
  | work cancelled => exact stands_perform And.right stands
  | @answer courier wait cancelled signal =>
      have calm : quiet ∧ (Act.answer cancelled signal).calledOff = false →
          cancelled = false ∧ signal ≠ .cancelled := by
        rintro ⟨-, hcalm⟩
        simpa [Act.calledOff] using hcalm
      exact stands_resume (fun hquiet => (calm hquiet).1) (fun hquiet => (calm hquiet).2) stands
  | remark isRemark =>
      rw [after_eq rfl rfl rfl]
      exact stands
  | pass moment =>
      rw [after_eq rfl rfl rfl]
      exact stands

end Tally

namespace Run

variable {courier : Courier} {cancelled : Bool} {fresh : Option Snapshot}

/-- A tick was not called off so far, and the link was not terminated before it. -/
structure Undisturbed (run : Run (of (courier.start cancelled (.tick fresh))) traffic) :
    Prop where
  usable : courier.link ≠ .terminated
  begun : cancelled = false
  acts : ∀ act ∈ run.acts, act.calledOff = false

/-- How a tick stands after all acts so far. -/
theorem stands (run : Run (of (courier.start cancelled (.tick fresh))) traffic)
    (leaves : ∀ act ∈ run.acts, act.leavesBacklog = true) :
    run.tally.StandsIn courier.hub.backlog fresh run.Undisturbed traffic := by
  induction run with
  | start => exact Tally.stands_start courier Undisturbed.begun Undisturbed.usable
  | extend run act step ih =>
      have latest : act ∈ (run.extend act step).acts :=
        List.mem_append_right _ (List.mem_singleton_self act)
      have earlier : ∀ other ∈ run.acts, other ∈ (run.extend act step).acts :=
        fun other hother => List.mem_append_left _ hother
      have stands := Tally.stands_step
        (ih fun other hother => leaves other (earlier other hother)) step (leaves act latest)
      rw [tally_extend]
      refine stands.mono fun calm => ⟨⟨calm.usable, calm.begun, ?_⟩, calm.acts act latest⟩
      exact fun other hother => calm.acts other (earlier other hother)

/-- What a tick promises while nobody else touches the backlog. -/
structure MovesInLine (run : Run (of (courier.start cancelled (.tick fresh))) traffic) :
    Prop where
  /-- What was taken, then what was lost, then what waits is what waited before, and then
  the fresh snapshot. -/
  moved : ∀ success, traffic.progress = .returned success →
    run.collect taking ++ (run.collect losing).map (·.1) ++ traffic.hub.backlog.toList =
      courier.hub.backlog.toList ++ fresh.toList
  lost_le : ∀ success, traffic.progress = .returned success →
    (run.collect losing).length ≤ 1
  /-- Only a fresh snapshot that finds the backlog as full as before pushes one out. -/
  lost_iff : ∀ success, traffic.progress = .returned success →
    (run.collect losing ≠ [] ↔
      fresh ≠ none ∧ courier.hub.backlog.isFull ∧ run.collect taking = [])
  /-- A tick that is not disturbed sends everything, or its last send and no other fails. -/
  outcome : ∀ success, traffic.progress = .returned success → run.Undisturbed →
    ((∀ send ∈ run.collect settling, send.2 = .done) ∧
        traffic.courier.state = .connected ∧ traffic.hub.backlog.toList = []) ∨
      ((∃ earlier snapshot, run.collect settling = earlier ++ [(snapshot, .failed)] ∧
          ∀ send ∈ earlier, send.2 = .done) ∧
        traffic.courier.state = .disconnected)
  /-- At any point of the tick, a snapshot that is given to the stream is the oldest one
  that was not taken; it is the fresh one only after the whole backlog. -/
  offered : ∀ snapshot turn, traffic.progress = .waiting (.sending snapshot turn) →
    (turn = .backlog fresh ∧
        run.collect taking ++ snapshot :: traffic.hub.backlog.toList =
          courier.hub.backlog.toList) ∨
      (turn = .fresh ∧ fresh = some snapshot ∧
        run.collect taking = courier.hub.backlog.toList)
  /-- What was taken and lost is written down, in this order and with the reasons. -/
  sent : traffic.journal.sent = courier.hub.journal.sent ++ run.collect taking
  dropped : traffic.journal.dropped = courier.hub.journal.dropped ++ run.collect losing

theorem moves_in_line (run : Run (of (courier.start cancelled (.tick fresh))) traffic)
    (leaves : ∀ act ∈ run.acts, act.leavesBacklog = true) : run.MovesInLine := by
  have stands := run.stands leaves
  have closed : ∀ success, traffic.progress = .returned success →
      run.tally.Closed courier.hub.backlog fresh run.Undisturbed traffic.hub.backlog
        traffic.courier.state := by
    intro success returned
    rw [Tally.StandsIn, Tally.Stands, returned] at stands
    exact stands
  have begun := courier.cargo_start cancelled (.tick fresh)
  refine ⟨fun success returned => (closed success returned).moved, ?_, ?_, ?_, ?_, ?_, ?_⟩
  · intro success returned
    simpa [tally] using (closed success returned).lost_le
  · intro success returned
    simpa [tally] using (closed success returned).lost_iff
  · intro success returned undisturbed
    have succeeded : ∀ send ∈ run.tally.taken.map (·, Signal.done), send.2 = .done := by
      simp
    rcases (closed success returned).outcome undisturbed with ⟨smooth, empty⟩ | broken
    · rw [← smooth.sends] at succeeded
      exact .inl ⟨succeeded, smooth.state, empty⟩
    · obtain ⟨snapshot, sends⟩ := broken.sends
      exact .inr ⟨⟨_, snapshot, sends, succeeded⟩, broken.state⟩
  · intro snapshot turn sending
    have inTurn : run.tally.InTurn courier.hub.backlog fresh snapshot turn
        traffic.hub.backlog := by
      rw [Tally.StandsIn, Tally.Stands, sending] at stands
      exact stands.1
    obtain ⟨held, onward, last⟩ := inTurn
    have goods : run.collect taking ++ (turn.popped? snapshot).toList ++
        traffic.hub.backlog.toList = courier.hub.backlog.toList := onward.goods
    cases turn with
    | backlog later =>
        cases held
        exact .inl ⟨rfl, by simpa [Turn.popped?] using goods⟩
    | fresh =>
        cases held
        exact .inr ⟨rfl, rfl, by simpa [Turn.popped?, last rfl] using goods⟩
  · have grown : traffic.cargo.sent = _ ++ run.collect taking :=
      run.collect_grows (·.cargo.sent) fun step => by
        rw [cargo_step step, (Cargo.recorded _ _).sent, step.seen.delivering]
    exact grown.trans (congrArg (·.sent ++ run.collect taking) begun)
  · have grown : traffic.cargo.dropped = _ ++ run.collect losing :=
      run.collect_grows (·.cargo.dropped) fun step => by
        rw [cargo_step step, (Cargo.recorded _ _).dropped, step.seen.losing]
    exact grown.trans (congrArg (·.dropped ++ run.collect losing) begun)

end Run

/-- A courier with two snapshots in its backlog, which is full. -/
def stocked : Courier := { hub := (Hub.start 0 2).offerAll [.bare 1, .bare 2] }

/-- A tick that is refused a stream once and breaks the next one with its first send. The
popped snapshot fits in again, and is pushed out by the fresh one. -/
def Run.broken : (traffic : Traffic) ×
    Run (of (stocked.start false (.tick (some (.bare 3))))) traffic :=
  ⟨_, Run.start
    |>.extend _ (.answer false .failed)
    |>.extend _ (.answer false .done)
    |>.extend _ (.answer false .done)
    |>.extend _ (.work false)
    |>.extend _ (.answer false .failed)
    |>.extend _ (.work false)
    |>.extend _ (.work false)⟩

/-- One snapshot is lost although nobody else has touched the backlog, and the one send
that was begun is the one that failed. -/
theorem Run.moves_in_line_broken :
    (∀ act ∈ broken.2.acts, act.leavesBacklog = true) ∧ broken.2.Undisturbed ∧
      broken.1.progress = .returned false ∧ broken.2.collect taking = [] ∧
      broken.2.collect losing = [(.bare 1, .overwritten)] ∧
      broken.2.collect settling = [(.bare 1, .failed)] ∧
      broken.1.hub.backlog.toList = [.bare 2, .bare 3] ∧ broken.2.MovesInLine := by
  have leaves : ∀ act ∈ broken.2.acts, act.leavesBacklog = true := by
    simp [Run.acts, broken, collect, Act.leavesBacklog]
  have undisturbed : broken.2.Undisturbed := by
    refine ⟨nofun, rfl, ?_⟩
    simp [Run.acts, broken, collect, Act.calledOff]
  exact ⟨leaves, undisturbed, rfl, rfl, rfl, rfl, rfl, broken.2.moves_in_line leaves⟩

end Traffic

end NodeTelemetry
