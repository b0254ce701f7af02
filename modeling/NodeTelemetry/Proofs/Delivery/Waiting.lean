/-
# Waits that take time

No wait has begun later than now, since the clock is never put back. So an agent that has
done all that was due until now waits for something that takes time, if it waits at all.
-/

import NodeTelemetry.Proofs.Delivery.Rounds

namespace NodeTelemetry

open Delivery

namespace Delivery

namespace Session

variable {peer : Peer} {session : Session}

/-- No wait has begun later than now. -/
def Dated (session : Session) : Prop :=
  ∀ pending ∈ session.pending, pending.since ≤ session.now

theorem since_schedule (courier : Courier) (wait : Wait) :
    (schedule peer courier wait).since = courier.hub.now := by
  cases wait with
  | sending snapshot turn =>
      unfold schedule
      cases courier.link <;> rfl
  | _ => rfl

theorem dated_absorb (result : Courier × Progress) : (session.absorb peer result).Dated := by
  intro pending waits
  unfold absorb at waits
  obtain ⟨wait, -, rfl⟩ := Option.map_eq_some_iff.mp waits
  exact Nat.le_of_eq (since_schedule _ wait)

theorem Dated.modifyHub (dated : session.Dated) {change : Hub → Hub}
    (onward : session.hub.now ≤ (change session.hub).now) : (session.modifyHub change).Dated :=
  fun pending waits => Nat.le_trans (dated pending waits) onward

theorem Dated.step (dated : session.Dated) : (session.step peer).Dated := by
  unfold Session.step
  split
  · exact dated
  · split
    · exact dated_absorb _
    · split
      · exact dated
      · exact dated_absorb _

end Session

namespace Deliverer

variable {plan : Plan} {session : Session} {deliverer : Deliverer}

theorem dated_conclude (dated : session.Dated) : (deliverer.conclude plan session).1.Dated := by
  unfold conclude
  split
  · exact dated
  · simp only
    split
    · exact Session.dated_absorb _
    · exact dated.modifyHub (Nat.le_refl _)

theorem dated_step (dated : session.Dated) : (deliverer.step plan session).1.Dated := by
  unfold step
  split
  · exact dated
  · split
    · split
      · exact dated_conclude (Session.dated_absorb _)
      · exact Session.dated_absorb _
    · exact dated_conclude (Session.dated_absorb _)
  · exact dated_conclude dated.step
  · exact dated.step

end Deliverer

end Delivery

namespace Hub

theorem now_append (hub : Hub) (event : Event) (snapshot : Snapshot) :
    (hub.append event snapshot).now = hub.now := by
  unfold append
  obtain ⟨evicted, backlog⟩ := hub.backlog.add snapshot
  cases evicted <;> rfl

theorem now_offerAll (hub : Hub) (snapshots : List Snapshot) :
    (hub.offerAll snapshots).now = hub.now := by
  have offered : ∀ (hub : Hub) (snapshot : Snapshot), (hub.offer snapshot).2.now = hub.now := by
    intro hub snapshot
    unfold offer
    obtain ⟨evicted, backlog⟩ := hub.backlog.add snapshot
    cases evicted <;> rfl
  induction snapshots generalizing hub with
  | nil => rfl
  | cons snapshot later ih => exact (ih _).trans (offered hub snapshot)

theorem now_take (hub : Hub) : hub.take.2.now = hub.now := by
  unfold take
  obtain ⟨popped, backlog⟩ := hub.backlog.pop
  cases popped <;> rfl

theorem now_faulted (faults : List Fault) (hub : Hub) :
    (faults.foldl (fun hub fault => hub.note (.faulted fault)) hub).now = hub.now := by
  induction faults generalizing hub with
  | nil => rfl
  | cons fault later ih => exact ih (hub.note (.faulted fault))

theorem now_record (hub : Hub) (findings : Collection.Findings) (elapsed : Nat) :
    (Collection.record findings elapsed hub).now = hub.now :=
  (now_append _ _ _).trans (now_faulted findings.faults hub)

end Hub

namespace Agent

variable {plan : Plan} {origin agent : Agent}

theorem dated_stepCollector (dated : agent.session.Dated) :
    (agent.stepCollector plan).session.Dated := by
  have onward : agent.hub.now ≤
      (agent.collector.step plan.collection agent.session.cancelled agent.hub).1.now := by
    unfold Collection.Collector.step
    split
    · exact Nat.le_refl _
    · split
      · exact Nat.le_refl _
      · exact Nat.le_max_left _ _
    · split
      · exact Nat.le_refl _
      · rw [Hub.now_record]
        exact Nat.le_max_left _ _
  exact dated.modifyHub onward

theorem Reached.dated (reached : Reached plan origin agent) (start : origin.session.Dated) :
    agent.session.Dated := by
  induction reached with
  | start => exact start
  | step reached step ih =>
      obtain ⟨rfl, -⟩ | ⟨rfl, -⟩ := step?_cases step
      · exact Deliverer.dated_step ih
      · exact dated_stepCollector ih
  | wait reached moment ih => exact ih.modifyHub (Nat.le_max_left _ _)
  | @intervene agent reached intervention ih =>
      cases intervention with
      | nothing => exact ih
      | add snapshots => exact ih.modifyHub (Nat.le_of_eq (Hub.now_offerAll _ snapshots).symm)
      | take => exact ih.modifyHub (Nat.le_of_eq agent.hub.now_take.symm)
      | cancel => exact ih

theorem dated_start (courier : Courier) (collecting delivering : Option Nat) :
    (start courier collecting delivering).session.Dated := by
  intro pending waits
  cases waits

/-- The agent really waits, if it waits at all: for an answer that does not come at once, or
for a delay that takes some time. Only then can somebody else do something. -/
def Suspended (agent : Agent) : Prop :=
  ∀ pending ∈ agent.session.pending, pending.immediate = false

/-- An agent that has done all that was due before a moment is suspended at that moment. -/
theorem suspended_waitUntil (dated : agent.session.Dated) (underway : agent.Underway)
    (goesOn : agent.session.cancelled = false) {moment : Nat}
    (later : agent.session.now < moment) (rests : agent.step? plan (some moment) = none) :
    (agent.modifyHub (·.waitUntil moment)).Suspended := by
  intro pending waits
  change pending ∈ agent.session.pending at waits
  cases immediate : pending.immediate with
  | false => rfl
  | true =>
      have due : pending.due = some pending.since := beq_iff_eq.mp immediate
      have delivering : agent.deliverer.phase = .delivering := by
        obtain ⟨-, free⟩ | ⟨delivering, -⟩ := underway.phase
        · rw [free] at waits
          cases waits
        · exact delivering
      have dueNow : agent.deliverer.dueAt? agent.session = some pending.since := by
        have uninterrupted : agent.session.interrupted pending = false := by
          unfold Session.interrupted
          rw [goesOn]
          rfl
        simp [Deliverer.dueAt?, delivering, Session.dueAt?, Option.mem_def.mp waits,
          uninterrupted, due]
      have early : pending.since < moment := Nat.lt_of_le_of_lt (dated pending waits) later
      obtain ⟨notBefore, -⟩ := not_before_of_step? rests
      rw [dueNow] at notBefore
      exact absurd early (of_decide_eq_false notBefore)

end Agent

end NodeTelemetry
