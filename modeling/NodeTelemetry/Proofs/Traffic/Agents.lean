/-
# Agents in traffic

A session and an agent settle when things happen: a relay answers at a moment, the
loops take turns, and tasks are done without anybody in between. All of that is
traffic. What holds after every run of traffic therefore holds at every moment of every
agent, whatever its relay and its sources do.
-/

import NodeTelemetry.Agent
import NodeTelemetry.Proofs.Traffic.Basic

namespace NodeTelemetry

open Delivery

namespace Traffic

variable {first second third traffic next : Traffic} {act : Act} {handed : List Snapshot}

/-- There is a run from one state of traffic to another in which these snapshots are
handed over, and no others. -/
def Reaches (first : Traffic) (handed : List Snapshot) (second : Traffic) : Prop :=
  ∃ run : Run first second, run.collect handing = handed

namespace Reaches

theorem refl (traffic : Traffic) : Reaches traffic [] traffic := ⟨.start, rfl⟩

theorem single (step : Step traffic act next) : Reaches traffic (traffic.handing act) next :=
  ⟨Run.start.extend act step, rfl⟩

/-- A run may go on as long as nothing more is handed over. -/
theorem trans (earlier : Reaches first handed second) (later : Reaches second [] third) :
    Reaches first handed third := by
  obtain ⟨run, quiet⟩ := later
  induction run with
  | start => exact earlier
  | extend run act step ih =>
      obtain ⟨before, latest⟩ := List.append_eq_nil_iff.mp quiet
      obtain ⟨whole, hwhole⟩ := ih before
      refine ⟨whole.extend act step, ?_⟩
      rw [Run.collect, hwhole, latest, List.append_nil]

end Reaches

/-- Others may add any number of snapshots in a row. -/
theorem reaches_offerAll (snapshots : List Snapshot) (traffic : Traffic) :
    Reaches traffic [] (traffic.modifyHub (·.offerAll snapshots)) := by
  induction snapshots generalizing traffic with
  | nil => exact .refl traffic
  | cons snapshot rest ih => exact (Reaches.single (.offer snapshot)).trans (ih _)

/-! ## Tasks -/

theorem reaches_work (cancelled : Bool) (result : Courier × Progress) :
    Reaches (of result) [] (of (Courier.work cancelled result)) := by
  obtain ⟨courier, progress⟩ := result
  cases progress with
  | working task => exact .single (.work cancelled)
  | _ => exact .refl _

theorem reaches_settle (cancelled : Bool) (result : Courier × Progress) :
    Reaches (of result) [] (of (Courier.settle cancelled result)) := by
  unfold Courier.settle
  have once := reaches_work cancelled result
  have twice := once.trans (reaches_work cancelled _)
  exact twice.trans (reaches_work cancelled _)

end Traffic

namespace Delivery

/-- How many tasks can follow, at most, a task included. -/
def Task.rank : Task → Nat
  | .drain _ => 3
  | .putBack .. => 2
  | .keep _ => 1

def Progress.rank : Progress → Nat
  | .working task => task.rank
  | _ => 0

namespace Courier

variable (courier : Courier) (cancelled : Bool)

theorem rank_giveUp (fresh : Option Snapshot) : (courier.giveUp fresh).2.rank ≤ 1 := by
  cases fresh with
  | none => exact Nat.zero_le _
  | some snapshot => exact Nat.le_refl _

theorem rank_send (snapshot : Snapshot) (turn : Turn) :
    (courier.send snapshot turn).2.rank ≤ 2 := by
  unfold send
  split
  · exact Nat.zero_le _
  · exact Nat.le_refl _

/-- Every task brings a call closer to a wait or to its return. -/
theorem rank_perform (task : Task) : (courier.perform cancelled task).2.rank < task.rank := by
  cases task with
  | keep snapshot => exact Nat.zero_lt_one
  | putBack snapshot turn =>
      cases turn with
      | backlog fresh => exact Nat.lt_succ_of_le (rank_giveUp _ fresh)
      | fresh => exact Nat.zero_lt_succ _
  | drain fresh =>
      change (courier.drain cancelled fresh).2.rank < 3
      unfold drain
      split
      · exact Nat.lt_of_le_of_lt (rank_giveUp _ fresh) (by decide)
      · obtain ⟨oldest, backlog⟩ := courier.hub.backlog.pop
        cases oldest with
        | some snapshot => exact Nat.lt_succ_of_le (rank_send _ snapshot _)
        | none =>
            cases fresh with
            | some snapshot => exact Nat.lt_succ_of_le (rank_send _ snapshot _)
            | none => exact Nat.zero_lt_succ _

theorem rank_work (result : Courier × Progress) :
    (work cancelled result).2.rank ≤ result.2.rank - 1 := by
  obtain ⟨courier, progress⟩ := result
  cases progress with
  | working task => exact Nat.le_pred_of_lt (courier.rank_perform cancelled task)
  | _ => exact Nat.zero_le _

/-- After three tasks there is nothing left to do before the next wait. -/
theorem rank_settle (result : Courier × Progress) : (settle cancelled result).2.rank = 0 := by
  have bounded : result.2.rank ≤ 3 := by
    cases result.2 with
    | working task => cases task <;> simp [Progress.rank, Task.rank]
    | _ => exact Nat.zero_le _
  have once := rank_work cancelled result
  have twice := rank_work cancelled (work cancelled result)
  have thrice := rank_work cancelled (work cancelled (work cancelled result))
  unfold settle
  omega

end Courier

namespace Session

open Traffic (Reaches)

/-- A session between its steps; the call has returned if nothing is pending. -/
def traffic (session : Session) : Traffic where
  courier := session.courier
  progress := match session.pending with
    | none => .returned session.success
    | some pending => .waiting pending.wait

variable (peer : Peer) (session : Session)

theorem wait_schedule (courier : Courier) (wait : Wait) :
    (schedule peer courier wait).wait = wait := by
  cases wait with
  | sending snapshot turn =>
      unfold schedule
      cases courier.link <;> rfl
  | _ => rfl

theorem traffic_absorb (result : Courier × Progress) :
    (session.absorb peer result).traffic =
      Traffic.of (Courier.settle session.cancelled result) := by
  have idle := Courier.rank_settle session.cancelled result
  unfold absorb
  generalize Courier.settle session.cancelled result = settled at idle ⊢
  obtain ⟨courier, progress⟩ := settled
  cases progress with
  | working task => cases task <;> cases idle
  | waiting wait =>
      exact congrArg (Traffic.mk courier <| .waiting ·) (wait_schedule peer courier wait)
  | returned success => rfl

variable {session}

theorem reaches_start (call : Call) (idle : session.pending = none) :
    Reaches session.traffic call.fresh.toList (session.start peer call).traffic := by
  have called : Traffic.Step session.traffic (.call session.cancelled call)
      (.of (session.courier.start session.cancelled call)) := by
    unfold traffic
    rw [idle]
    exact .call session.cancelled call
  unfold start
  rw [traffic_absorb]
  exact (Reaches.single called).trans (Traffic.reaches_settle _ _)

theorem reaches_absorb_resume {pending : Pending} (waits : session.pending = some pending)
    (signal : Signal) :
    Reaches session.traffic []
      (session.absorb peer
        (session.courier.resume session.cancelled signal pending.wait)).traffic := by
  have answered : Traffic.Step session.traffic (.answer session.cancelled signal)
      (.of (session.courier.resume session.cancelled signal pending.wait)) := by
    unfold traffic
    rw [waits]
    exact .answer session.cancelled signal
  rw [traffic_absorb]
  exact (Reaches.single answered).trans (Traffic.reaches_settle _ _)

theorem reaches_step : Reaches session.traffic [] (session.step peer).traffic := by
  unfold step
  cases waits : session.pending with
  | none => exact .refl _
  | some pending =>
      simp only
      split
      · exact reaches_absorb_resume peer waits .cancelled
      · cases pending.due with
        | none => exact .refl _
        | some due =>
            simp only
            have later : Reaches session.traffic []
                (session.modifyHub fun hub =>
                  (hub.waitUntil due).offerAll pending.arrivals).traffic :=
              (Reaches.single (.pass due)).trans (Traffic.reaches_offerAll pending.arrivals _)
            have stillWaits : (session.modifyHub fun hub =>
                (hub.waitUntil due).offerAll pending.arrivals).pending = some pending := waits
            exact later.trans (reaches_absorb_resume peer stillWaits pending.signal)

end Session

/-! ## The deliverer -/

namespace Deliverer

open Traffic (Reaches)

variable {plan : Plan} {session : Session} {deliverer : Deliverer}

/-- A deliverer between its rounds has no call running. -/
def Ready (result : Session × Deliverer) : Prop :=
  result.2.phase = .idle → result.1.pending = none

theorem reaches_stop (idle : session.pending = none) :
    Reaches session.traffic [] (deliverer.stop plan session).1.traffic :=
  Session.reaches_start plan.peer .shutdown idle

theorem ready_stop : Ready (deliverer.stop plan session) := by
  intro idle
  unfold stop at idle
  simp only at idle
  split at idle <;> cases idle

theorem reaches_conclude :
    Reaches session.traffic [] (deliverer.conclude plan session).1.traffic := by
  unfold conclude
  split
  · exact .refl _
  · rename_i returned
    have idle := Option.not_isSome_iff_eq_none.mp returned
    have surveyed : Reaches session.traffic [] (survey session).traffic :=
      .single (.remark rfl)
    simp only
    split
    · exact surveyed.trans (reaches_stop idle)
    · exact surveyed

theorem ready_conclude : Ready (deliverer.conclude plan session) := by
  unfold conclude
  split
  · exact fun idle => by cases idle
  · rename_i returned
    simp only
    split
    · exact ready_stop
    · exact fun _ => Option.not_isSome_iff_eq_none.mp returned

theorem reaches_step (ready : Ready (session, deliverer)) :
    Reaches session.traffic [] (deliverer.step plan session).1.traffic := by
  unfold step
  split
  · exact .refl _
  · rename_i idle
    have free := ready idle
    split
    · split
      · exact (Session.reaches_start plan.peer _ free).trans reaches_conclude
      · exact reaches_stop free
    · have later : Reaches session.traffic []
          (session.modifyHub (·.waitUntil deliverer.ticker.due)).traffic :=
        .single (.pass _)
      have begun : Reaches (session.modifyHub (·.waitUntil deliverer.ticker.due)).traffic [] _ :=
        Session.reaches_start plan.peer (.tick none) free
      exact (later.trans begun).trans reaches_conclude
  · exact (Session.reaches_step plan.peer).trans reaches_conclude
  · exact Session.reaches_step plan.peer

theorem ready_step (ready : Ready (session, deliverer)) :
    Ready (deliverer.step plan session) := by
  unfold step
  split
  · exact ready
  · split
    · split
      · exact ready_conclude
      · exact ready_stop
    · exact ready_conclude
  · exact ready_conclude
  · intro idle
    simp only at idle
    split at idle <;> cases idle

end Deliverer

end Delivery

/-! ## Agents -/

namespace Agent

open Traffic (Reaches)

variable {plan : Plan} {agent next : Agent} {limit : Option Nat}

/-- What is to be done before something else is due earlier. -/
theorem exists_lt_of_before {first last : Option Nat} (sooner : before first last = true) :
    ∃ due ∈ first, ∀ moment ∈ last, due < moment := by
  cases first with
  | none => cases sooner
  | some due =>
      refine ⟨due, rfl, fun moment listed => ?_⟩
      obtain rfl : last = some moment := listed
      exact of_decide_eq_true sooner

/-- Whether it is the turn of the collector. -/
def collects (agent : Agent) : Bool :=
  !before (agent.deliverer.dueAt? agent.session)
    (agent.collector.dueAt? agent.session.cancelled agent.hub)

/-- A step is one of the loop whose turn it is. -/
theorem step?_turn (step : agent.step? plan limit = some next) :
    agent.collects = true ∧ next = agent.stepCollector plan ∧
        before (agent.collector.dueAt? agent.session.cancelled agent.hub) limit = true ∨
      agent.collects = false ∧ next = agent.stepDeliverer plan ∧
        before (agent.deliverer.dueAt? agent.session)
          (agent.collector.dueAt? agent.session.cancelled agent.hub) = true := by
  unfold step? at step
  simp only at step
  unfold collects
  split at step
  · rename_i first
    split at step
    · exact .inr ⟨by simp [first], (Option.some.inj step).symm, first⟩
    · cases step
  · rename_i notFirst
    split at step
    · rename_i due
      exact .inl ⟨by simp [notFirst], (Option.some.inj step).symm, due⟩
    · cases step

def traffic (agent : Agent) : Traffic := agent.session.traffic

/-- An agent that has no call running between two rounds. -/
def Ready (agent : Agent) : Prop := Deliverer.Ready (agent.session, agent.deliverer)

/-- The collector touches nothing but the hub. -/
theorem reaches_stepCollector : Reaches agent.traffic [] (agent.stepCollector plan).traffic := by
  unfold stepCollector Collection.Collector.step
  cases agent.collector.phase with
  | stopped => exact .refl _
  | idle =>
      by_cases cancelled : agent.session.cancelled
      · simp only [cancelled, if_true]
        exact .refl _
      · simp only [cancelled]
        exact (Reaches.single (.pass _)).trans (.single (.remark rfl))
  | running collection =>
      by_cases cancelled : agent.session.cancelled
      · simp only [cancelled, if_true]
        exact .single (.remark rfl)
      · simp only [cancelled]
        exact (Reaches.single (.pass _)).trans (.single (.record collection.findings _))

theorem ready_stepCollector (ready : agent.Ready) : (agent.stepCollector plan).Ready := ready

theorem reaches_step? (ready : agent.Ready) (goesOn : agent.step? plan limit = some next) :
    Reaches agent.traffic [] next.traffic ∧ next.Ready := by
  obtain ⟨-, rfl, -⟩ | ⟨-, rfl, -⟩ := step?_turn goesOn
  · exact ⟨reaches_stepCollector, ready_stepCollector ready⟩
  · exact ⟨Deliverer.reaches_step ready, Deliverer.ready_step ready⟩

/-- What every step keeps is kept however far an agent goes on. -/
theorem advance_keeps {motive : Agent → Prop}
    (keeps : ∀ {agent next : Agent}, motive agent → agent.step? plan limit = some next →
      motive next)
    (holds : motive agent) (steps : Nat) : motive (agent.advance plan limit steps) := by
  induction steps generalizing agent with
  | zero => exact holds
  | succ steps ih =>
      unfold advance
      cases goesOn : agent.step? plan limit with
      | none => exact holds
      | some next => exact ih (keeps holds goesOn)

/-- An agent that every step brings closer to its end has nothing left to do when it has had
steps enough. -/
theorem advance_rests {motive : Agent → Prop} {rank : Agent → Nat}
    (closer : ∀ {agent next : Agent}, motive agent → agent.step? plan limit = some next →
      motive next ∧ rank next < rank agent)
    (holds : motive agent) {steps : Nat} (enough : rank agent ≤ steps) :
    (agent.advance plan limit steps).step? plan limit = none := by
  induction steps generalizing agent with
  | zero =>
      cases goesOn : agent.step? plan limit with
      | none => exact goesOn
      | some next =>
          have falls := (closer holds goesOn).2
          omega
  | succ steps ih =>
      unfold advance
      cases goesOn : agent.step? plan limit with
      | none => exact goesOn
      | some next =>
          obtain ⟨stillHolds, falls⟩ := closer holds goesOn
          exact ih stillHolds (by omega)

/-- However far an agent goes on, what it does is traffic, and it hands nothing over. -/
theorem reaches_advance (ready : agent.Ready) (plan : Plan) (limit : Option Nat) (steps : Nat) :
    Reaches agent.traffic [] (agent.advance plan limit steps).traffic := by
  have reached : Reaches agent.traffic [] (agent.advance plan limit steps).traffic ∧
      (agent.advance plan limit steps).Ready := by
    refine advance_keeps (motive := fun later =>
      Reaches agent.traffic [] later.traffic ∧ later.Ready) ?_ ⟨.refl _, ready⟩ steps
    intro later next earlier goesOn
    obtain ⟨further, stillReady⟩ := reaches_step? earlier.2 goesOn
    exact ⟨earlier.1.trans further, stillReady⟩
  exact reached.1

/-- An agent on an empty hub runs in traffic from the first moment on. -/
theorem reaches_start (epoch : Int64) (capacity : Nat) (backoff : Backoff)
    (collecting delivering : Option Nat) (plan : Plan) (limit : Option Nat) (steps : Nat) :
    Reaches (.initial epoch capacity backoff) []
      ((start { hub := .start epoch capacity, backoff } collecting delivering).advance
        plan limit steps).traffic :=
  @reaches_advance (start { hub := .start epoch capacity, backoff } collecting delivering)
    (fun _ => rfl) plan limit steps

end Agent

end NodeTelemetry
