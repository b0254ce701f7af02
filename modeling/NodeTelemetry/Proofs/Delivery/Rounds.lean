/-
# Rounds of delivery

As long as nobody calls delivery off, a deliverer goes from round to round. Between two
rounds nothing is pending, and the link is disconnected or connected; in a round, a call
waits for something that fits the state of its link. This is so at every moment of an
agent, whatever the relay and the sources do and whoever intervenes.
-/

import NodeTelemetry.Proofs.Traffic.Agents
import NodeTelemetry.Proofs.Traffic.Diagram
import NodeTelemetry.Proofs.Traffic.Moves

namespace NodeTelemetry

universe u

open Delivery

/-! ## Nothing fresh -/

/-- Only handing over brings a fresh item. -/
theorem Cargo.fresh_apply {α : Type u} {cargo : Cargo α} {move : Move α}
    (nothing : cargo.fresh = none) (notHanded : ∀ fresh, move = .handOver fresh → fresh = none) :
    (cargo.apply move).fresh = none := by
  have released : cargo.release.fresh = none := by
    unfold Cargo.release
    split
    · exact nothing
    · rfl
  cases move with
  | stay => exact nothing
  | handOver fresh => exact notHanded fresh rfl
  | add item => exact nothing
  | offer item => exact nothing
  | pop =>
      change cargo.pop.fresh = none
      unfold Cargo.pop
      split
      · exact nothing
      · exact nothing
  | deliver => exact released
  | putBack =>
      change cargo.putBack.fresh = none
      unfold Cargo.putBack
      split
      · exact nothing
      · split
        · exact released
        · exact released
  | keep =>
      change cargo.keep.fresh = none
      unfold Cargo.keep
      split
      · exact nothing
      · rfl

namespace Traffic

variable {first second : Traffic}

/-- A call that nothing fresh came with never holds anything fresh. -/
theorem Reaches.fresh? (reaches : Reaches first [] second)
    (nothing : first.progress.fresh? = none) : second.progress.fresh? = none := by
  obtain ⟨run, unprompted⟩ := reaches
  induction run with
  | start => exact nothing
  | @extend before next run act step ih =>
      obtain ⟨earlier, latest⟩ := List.append_eq_nil_iff.mp unprompted
      have moved : next.progress.fresh? = (before.cargo.apply (before.move act)).fresh :=
        congrArg Cargo.fresh (cargo_step step)
      rw [moved]
      apply Cargo.fresh_apply (ih earlier)
      intro fresh handed
      cases step with
      | call cancelled call =>
          cases handed
          exact Option.toList_eq_nil_iff.mp latest
      | @work courier task cancelled => cases task <;> cases cancelled <;> cases handed
      | @answer courier wait cancelled signal =>
          cases wait <;> cases signal <;> cases handed
      | _ => cases handed

end Traffic

/-! ## Sessions that go on -/

namespace Delivery

/-- The dealings while delivery goes on. -/
def goingOn : List Dealing := [.answer, .request]

theorem begun_subset_goingOn {cancelled : Bool} (goesOn : cancelled = false) :
    begun cancelled ⊆ goingOn := by
  rw [goesOn]
  exact List.subset_cons_self _ _

namespace Session

open Hub (Passage)
open Traffic (Reaches)

variable {peer : Peer} {session : Session} {result : Courier × Progress}

/-- A session of which more can come: its link is in a state that fits, and is not
terminated, and nothing but the backlog is delivered. -/
structure Sound (session : Session) : Prop where
  fits : session.traffic.Fits
  running : session.courier.state ≠ .terminated
  backlogOnly : session.traffic.progress.fresh? = none
  /-- No wait is bound to end by calling delivery off. -/
  signal : ∀ pending ∈ session.pending, pending.signal ≠ .cancelled

theorem signal_schedule (courier : Courier) (wait : Wait) :
    (schedule peer courier wait).signal ≠ .cancelled := by
  cases wait with
  | opening call =>
      unfold schedule
      simp only
      split <;> nofun
  | backingOff delay call => nofun
  | sending snapshot turn =>
      unfold schedule
      cases courier.link with
      | connected stream =>
          simp only
          split <;> nofun
      | _ => nofun
  | closing => nofun

theorem signal_absorb {pending : Pending}
    (waits : pending ∈ (session.absorb peer result).pending) : pending.signal ≠ .cancelled := by
  unfold absorb at waits
  obtain ⟨wait, -, rfl⟩ := Option.map_eq_some_iff.mp waits
  exact signal_schedule _ wait

/-- What a session goes through when it takes over the result of a step. -/
theorem passage_absorb {allowed : List Dealing} {hub : Hub} {origin : Standing}
    (leaves : Courier.Leaves allowed hub origin result)
    (goesOn : begun session.cancelled ⊆ allowed) :
    Passage allowed hub origin (session.absorb peer result).hub
        (session.absorb peer result).traffic.standing ∧
      (session.absorb peer result).traffic.Fits := by
  have settled := leaves.settle goesOn
  have same := traffic_absorb peer session result
  change Passage allowed hub origin (session.absorb peer result).traffic.hub _ ∧ _
  rw [same]
  exact ⟨settled.passage, settled.fits⟩

/-- Without an end to delivery, more can come of a session. -/
theorem Sound.absorb {allowed : List Dealing} (sound : session.Sound)
    (leaves : Courier.Leaves allowed session.hub session.traffic.standing result)
    (goesOn : begun session.cancelled ⊆ allowed) (noQuit : .quit ∉ allowed)
    (reaches : Reaches session.traffic [] (session.absorb peer result).traffic) :
    (session.absorb peer result).Sound := by
  obtain ⟨⟨events, hevents, trail⟩, fits⟩ := @passage_absorb peer _ _ _ _ _ leaves goesOn
  refine ⟨fits, ?_, reaches.fresh? sound.backlogOnly, fun _ => signal_absorb⟩
  have running : session.traffic.standing.state ≠ .terminated := by
    rw [Traffic.state_standing sound.fits]
    exact sound.running
  have still := trail.not_terminated noQuit running
  rw [Traffic.state_standing fits] at still
  exact still

/-- Anybody may do something to the hub. -/
theorem Sound.modifyHub (sound : session.Sound) (change : Hub → Hub) :
    (session.modifyHub change).Sound :=
  ⟨sound.fits, sound.running, sound.backlogOnly, sound.signal⟩

theorem traffic_of_free (free : session.pending = none) :
    session.traffic = ⟨session.courier, .returned session.success⟩ := by
  unfold traffic
  rw [free]

theorem traffic_of_waits {pending : Pending} (waits : session.pending = some pending) :
    session.traffic = ⟨session.courier, .waiting pending.wait⟩ := by
  unfold traffic
  rw [waits]

theorem standing_of_free (free : session.pending = none) :
    session.traffic.standing = .link session.courier.link :=
  congrArg Traffic.standing (traffic_of_free free)

theorem standing_of_waits {pending : Pending} (waits : session.pending = some pending) :
    session.traffic.standing =
      (Progress.waiting pending.wait).standing session.courier.link :=
  congrArg Traffic.standing (traffic_of_waits waits)

theorem fits_of_free (fits : session.traffic.Fits) (free : session.pending = none) :
    session.courier.state ∈ LinkState.resting := by
  rw [traffic_of_free free] at fits
  exact fits

theorem fits_of_waits {pending : Pending} (fits : session.traffic.Fits)
    (waits : session.pending = some pending) :
    session.courier.link.state ∈ (Progress.waiting pending.wait).states := by
  rw [traffic_of_waits waits] at fits
  exact fits

/-- A round begins. -/
theorem Sound.start (sound : session.Sound) (free : session.pending = none)
    (goesOn : session.cancelled = false) :
    (session.start peer (.tick none)).Sound ∧
      Passage goingOn session.hub session.traffic.standing
        (session.start peer (.tick none)).hub
        (session.start peer (.tick none)).traffic.standing := by
  have begins := begun_subset_goingOn goesOn
  have leaves : Courier.Leaves goingOn session.hub session.traffic.standing
      (session.courier.start session.cancelled (.tick none)) := by
    rw [standing_of_free free]
    exact (Courier.leaves_start (.tick none)).mono begins
  exact ⟨sound.absorb leaves begins (by decide) (reaches_start peer (.tick none) free),
    (passage_absorb leaves begins).1⟩

/-- A session at the moment at which a wait ends, with what others have added till then. -/
def arrive (moment : Nat) (arrivals : List Snapshot) (session : Session) : Session :=
  session.modifyHub fun hub => (hub.waitUntil moment).offerAll arrivals

theorem passage_arrive {allowed : List Dealing} (moment : Nat) (arrivals : List Snapshot)
    (session : Session) (standing : Standing) :
    Passage allowed session.hub standing (session.arrive moment arrivals).hub standing := by
  have waited : Passage allowed session.hub standing (session.hub.waitUntil moment) standing :=
    .of_eq rfl
  exact waited.trans (Hub.passage_offerAll arrivals)

theorem step_of_free (free : session.pending = none) : session.step peer = session := by
  unfold step
  rw [free]

/-- A wait that is ended by calling delivery off. -/
theorem step_of_interrupted {pending : Pending} (waits : session.pending = some pending)
    (interrupted : session.interrupted pending = true) :
    session.step peer =
      session.absorb peer (session.courier.resume session.cancelled .cancelled pending.wait) := by
  unfold step
  simp only [waits, interrupted, if_true]

/-- A wait that ends by itself. -/
theorem step_of_due {pending : Pending} (waits : session.pending = some pending)
    (uninterrupted : session.interrupted pending = false) {due : Nat}
    (ends : pending.due = some due) :
    session.step peer = (session.arrive due pending.arrivals).absorb peer
      ((session.arrive due pending.arrivals).courier.resume session.cancelled pending.signal
        pending.wait) := by
  unfold step
  simp only [waits, uninterrupted, Bool.false_eq_true, if_false, ends]
  rfl

/-- A wait that never ends. -/
theorem step_of_never {pending : Pending} (waits : session.pending = some pending)
    (uninterrupted : session.interrupted pending = false) (never : pending.due = none) :
    session.step peer = session := by
  unfold step
  simp only [waits, uninterrupted, Bool.false_eq_true, if_false, never]

theorem not_interrupted_of_goesOn (goesOn : session.cancelled = false) (pending : Pending) :
    session.interrupted pending = false := by
  unfold interrupted
  rw [goesOn]
  rfl

/-- A session that was not called off goes on only when its wait ends by itself. -/
theorem step_cases (goesOn : session.cancelled = false) :
    session.step peer = session ∨ ∃ pending due, session.pending = some pending ∧
      session.step peer = (session.arrive due pending.arrivals).absorb peer
        ((session.arrive due pending.arrivals).courier.resume false pending.signal
          pending.wait) := by
  cases waits : session.pending with
  | none => exact .inl (step_of_free waits)
  | some pending =>
      have uninterrupted := not_interrupted_of_goesOn goesOn pending
      cases ends : pending.due with
      | none => exact .inl (step_of_never waits uninterrupted ends)
      | some due =>
          have stepped := @step_of_due peer _ _ waits uninterrupted _ ends
          rw [goesOn] at stepped
          exact .inr ⟨pending, due, rfl, stepped⟩

/-- A call hears how its wait has ended. -/
theorem Sound.answer {pending : Pending} (sound : session.Sound)
    (goesOn : session.cancelled = false) (waits : session.pending = some pending) :
    (session.absorb peer
        (session.courier.resume false pending.signal pending.wait)).Sound ∧
      Passage goingOn session.hub session.traffic.standing
        (session.absorb peer (session.courier.resume false pending.signal pending.wait)).hub
        (session.absorb peer
          (session.courier.resume false pending.signal pending.wait)).traffic.standing := by
  have begins := begun_subset_goingOn goesOn
  have answers : resumed false pending.signal ⊆ goingOn := by
    have uncancelled := sound.signal pending waits
    cases signal : pending.signal with
    | cancelled => exact absurd signal uncancelled
    | done => exact List.Subset.refl _
    | failed => exact List.Subset.refl _
  have leaves : Courier.Leaves goingOn session.hub session.traffic.standing
      (session.courier.resume false pending.signal pending.wait) := by
    rw [standing_of_waits waits]
    exact (Courier.leaves_resume (fits_of_waits sound.fits waits)).mono answers
  have reaches := reaches_absorb_resume peer waits pending.signal
  rw [goesOn] at reaches
  exact ⟨sound.absorb leaves begins (by decide) reaches, (passage_absorb leaves begins).1⟩

/-- A session goes on. -/
theorem Sound.step (sound : session.Sound) (goesOn : session.cancelled = false) :
    (session.step peer).Sound ∧
      Passage goingOn session.hub session.traffic.standing
        (session.step peer).hub (session.step peer).traffic.standing := by
  obtain same | ⟨pending, due, waits, step⟩ := @step_cases peer session goesOn
  · rw [same]
    exact ⟨sound, .refl _ _⟩
  · have still : (session.arrive due pending.arrivals).Sound := sound.modifyHub _
    obtain ⟨answered, passage⟩ := @Sound.answer peer _ pending still goesOn waits
    rw [step]
    exact ⟨answered, (passage_arrive due pending.arrivals session _).trans passage⟩

end Session

/-! ## Calling off is for good -/

namespace Session

variable {peer : Peer} {session : Session}

theorem cancelled_absorb (cancelled : session.cancelled = true) (result : Courier × Progress) :
    (session.absorb peer result).cancelled = true := by
  change (session.cancelled || _) = true
  rw [cancelled, Bool.true_or]

theorem cancelled_step (cancelled : session.cancelled = true) :
    (session.step peer).cancelled = true := by
  unfold step
  split
  · exact cancelled
  · split
    · exact cancelled_absorb cancelled _
    · split
      · exact cancelled
      · exact cancelled_absorb cancelled _

end Session

namespace Deliverer

variable {plan : Plan} {session : Session} {deliverer : Deliverer}

theorem cancelled_conclude (cancelled : session.cancelled = true) :
    (deliverer.conclude plan session).1.cancelled = true := by
  unfold conclude
  split
  · exact cancelled
  · simp only
    split
    · exact Session.cancelled_absorb cancelled _
    · exact cancelled

theorem cancelled_step (cancelled : session.cancelled = true) :
    (deliverer.step plan session).1.cancelled = true := by
  unfold step
  split
  · exact cancelled
  · rw [if_pos cancelled]
    split
    · exact cancelled_conclude (Session.cancelled_absorb cancelled _)
    · exact Session.cancelled_absorb cancelled _
  · exact cancelled_conclude (Session.cancelled_step cancelled)
  · exact Session.cancelled_step cancelled

/-! The interval of a ticker stays what it is. -/

theorem interval_conclude :
    (deliverer.conclude plan session).2.ticker.interval = deliverer.ticker.interval := by
  unfold conclude
  split
  · rfl
  · simp only
    split <;> rfl

theorem interval_step :
    (deliverer.step plan session).2.ticker.interval = deliverer.ticker.interval := by
  unfold step
  split
  · rfl
  · split
    · split
      · exact interval_conclude
      · rfl
    · exact interval_conclude
  · exact interval_conclude
  · rfl

end Deliverer

/-! ## Deliverers that go on -/

namespace Deliverer

open Hub (Passage)

variable {plan : Plan} {session : Session} {deliverer : Deliverer}

/-- A deliverer in a round or between two rounds. -/
structure Underway (session : Session) (deliverer : Deliverer) : Prop where
  sound : session.Sound
  phase : deliverer.phase = .idle ∧ session.pending = none ∨
    deliverer.phase = .delivering ∧ session.pending.isSome

/-- A round whose call has returned is over, since the link is not terminated. -/
theorem conclude_eq (sound : session.Sound) :
    deliverer.conclude plan session =
      if session.pending.isSome then (session, { deliverer with phase := .delivering })
      else (survey session, { deliverer with phase := .idle }) := by
  unfold conclude
  split
  · rfl
  · exact if_neg sound.running

theorem Underway.conclude (sound : session.Sound) :
    Underway (deliverer.conclude plan session).1 (deliverer.conclude plan session).2 := by
  rw [conclude_eq sound]
  split
  · rename_i waits
    exact ⟨sound, .inr ⟨rfl, waits⟩⟩
  · rename_i returned
    exact ⟨sound.modifyHub _, .inl ⟨rfl, Option.not_isSome_iff_eq_none.mp returned⟩⟩

/-- A deliverer that was not called off begins a round or goes on with one. -/
theorem step_eq (underway : Underway session deliverer) (goesOn : session.cancelled = false) :
    deliverer.step plan session =
      if deliverer.phase = .idle then
        deliverer.start plan (session.modifyHub (·.waitUntil deliverer.ticker.due))
      else deliverer.conclude plan (session.step plan.peer) := by
  unfold step
  obtain ⟨idle, -⟩ | ⟨delivering, -⟩ := underway.phase
  · simp only [idle, goesOn, Bool.false_eq_true, if_false, if_true]
  · simp only [delivering, reduceCtorEq, if_false]

theorem Underway.step (underway : Underway session deliverer)
    (goesOn : session.cancelled = false) :
    Underway (deliverer.step plan session).1 (deliverer.step plan session).2 := by
  rw [step_eq underway goesOn]
  obtain ⟨idle, free⟩ | ⟨delivering, -⟩ := underway.phase
  · rw [if_pos idle]
    have later := underway.sound.modifyHub (·.waitUntil deliverer.ticker.due)
    exact .conclude (later.start free goesOn).1
  · rw [if_neg (by simp [delivering])]
    exact .conclude (underway.sound.step goesOn).1

end Deliverer

end Delivery

/-! ## Agents that go on -/

namespace Agent

variable {plan : Plan} {origin agent next : Agent} {limit : Option Nat}

/-- The agents that an agent can become when it goes on, time passes, and others
intervene. -/
inductive Reached (plan : Plan) (origin : Agent) : Agent → Prop where
  | start : Reached plan origin origin
  | step {agent next : Agent} {limit : Option Nat} (reached : Reached plan origin agent)
      (goesOn : agent.step? plan limit = some next) : Reached plan origin next
  | wait {agent : Agent} (reached : Reached plan origin agent) (moment : Nat) :
      Reached plan origin (agent.modifyHub (·.waitUntil moment))
  | intervene {agent : Agent} (reached : Reached plan origin agent)
      (intervention : Intervention) : Reached plan origin (agent.intervene intervention).2

namespace Reached

theorem advance (reached : Reached plan origin agent) (limit : Option Nat) (steps : Nat) :
    Reached plan origin (agent.advance plan limit steps) :=
  advance_keeps .step reached steps

theorem runUntil (reached : Reached plan origin agent) (steps moment : Nat) :
    Reached plan origin (agent.runUntil plan steps moment) :=
  (reached.advance (some moment) steps).wait moment

theorem interveneAll (reached : Reached plan origin agent) (interventions : List Intervention) :
    Reached plan origin (agent.interveneAll interventions).2 :=
  List.foldlRecOn interventions _
    (motive := fun result : List Snapshot × Agent => Reached plan origin result.2) reached
    fun _ reached intervention _ => reached.intervene intervention

/-- Whatever is seen in a rehearsal is reached. -/
theorem rehearse (reached : Reached plan origin agent) (steps : Nat)
    (script : List (Nat × List Intervention)) :
    ∀ sample ∈ (agent.rehearse plan steps script).1, Reached plan origin sample.2 := by
  induction script generalizing agent with
  | nil => exact fun _ listed => nomatch listed
  | cons entry later ih =>
      have sampled := (reached.runUntil steps entry.1).interveneAll entry.2
      intro sample listed
      obtain rfl | listed := List.mem_cons.mp listed
      · exact sampled
      · exact ih sampled sample listed

end Reached

/-- One of the loops does what is due. -/
theorem step?_cases (step : agent.step? plan limit = some next) :
    next = agent.stepDeliverer plan ∧ (agent.deliverer.dueAt? agent.session).isSome ∨
      next = agent.stepCollector plan ∧
        (agent.collector.dueAt? agent.session.cancelled agent.hub).isSome := by
  obtain ⟨-, same, first⟩ | ⟨-, same, first⟩ := step?_turn step
  · obtain ⟨due, collecting, -⟩ := exists_lt_of_before first
    exact .inr ⟨same, Option.isSome_of_mem collecting⟩
  · obtain ⟨due, delivering, -⟩ := exists_lt_of_before first
    exact .inl ⟨same, Option.isSome_of_mem delivering⟩

/-- An agent goes on for as long as anything is due before the limit. -/
theorem not_before_of_step? (step : agent.step? plan limit = none) :
    before (agent.deliverer.dueAt? agent.session) limit = false ∧
      before (agent.collector.dueAt? agent.session.cancelled agent.hub) limit = false := by
  unfold step? at step
  simp only at step
  generalize agent.deliverer.dueAt? agent.session = delivering at step ⊢
  generalize agent.collector.dueAt? agent.session.cancelled agent.hub = collecting at step ⊢
  split at step
  · rename_i first
    split at step
    · cases step
    · rename_i notBefore
      refine ⟨Bool.eq_false_iff.mpr notBefore, ?_⟩
      -- The collector would come later still.
      rcases delivering with _ | delivering <;> rcases collecting with _ | collecting <;>
        rcases limit with _ | limit <;> simp_all [before]
      omega
  · rename_i notFirst
    split at step
    · cases step
    · rename_i notBefore
      refine ⟨?_, Bool.eq_false_iff.mpr notBefore⟩
      rcases delivering with _ | delivering <;> rcases collecting with _ | collecting <;>
        rcases limit with _ | limit <;> simp_all [before]
      omega

/-- Without a limit, it stops when nothing is due any more. -/
theorem not_due_of_step? (step : agent.step? plan none = none) :
    agent.deliverer.dueAt? agent.session = none ∧
      agent.collector.dueAt? agent.session.cancelled agent.hub = none := by
  have never : ∀ {moment : Option Nat}, before moment none = false → moment = none := by
    intro moment notBefore
    cases moment with
    | none => rfl
    | some moment => cases notBefore
  obtain ⟨delivering, collecting⟩ := not_before_of_step? step
  exact ⟨never delivering, never collecting⟩

/-- The collector has nothing to do with the link. -/
theorem passage_stepCollector {allowed : List Dealing} (standing : Standing) :
    Hub.Passage allowed agent.hub standing (agent.stepCollector plan).hub standing := by
  have waited : ∀ moment : Nat, Hub.Passage allowed agent.hub standing
      (agent.hub.waitUntil moment) standing := fun _ => .of_eq rfl
  unfold stepCollector Collection.Collector.step
  cases agent.collector.phase with
  | stopped => exact .refl _ _
  | idle =>
      cases agent.session.cancelled with
      | true => exact .refl _ _
      | false => exact (waited _).trans (Hub.passage_aside rfl rfl)
  | running collection =>
      cases agent.session.cancelled with
      | true => exact Hub.passage_aside rfl rfl
      | false => exact (waited _).trans (Hub.passage_record collection.findings _)

theorem cancelled_step (step : agent.step? plan limit = some next)
    (cancelled : agent.session.cancelled = true) : next.session.cancelled = true := by
  obtain ⟨rfl, -⟩ | ⟨rfl, -⟩ := step?_cases step
  · exact Deliverer.cancelled_step cancelled
  · exact cancelled

/-- What was not called off, was not called off before. -/
theorem goesOn_before (step : agent.step? plan limit = some next)
    (goesOn : next.session.cancelled = false) : agent.session.cancelled = false := by
  cases before : agent.session.cancelled with
  | false => rfl
  | true =>
      rw [cancelled_step step before] at goesOn
      cases goesOn

/-- An agent with its deliverer in a round or between two rounds. -/
def Underway (agent : Agent) : Prop := Deliverer.Underway agent.session agent.deliverer

/-- The agent may do something to its hub, and so may anybody else. -/
theorem Underway.modifyHub (underway : agent.Underway) (change : Hub → Hub) :
    (agent.modifyHub change).Underway :=
  ⟨Session.Sound.modifyHub underway.sound change, underway.phase⟩

theorem Underway.step (underway : agent.Underway) (goesOn : agent.session.cancelled = false)
    (step : agent.step? plan limit = some next) : next.Underway := by
  obtain ⟨rfl, -⟩ | ⟨rfl, -⟩ := step?_cases step
  · exact Deliverer.Underway.step underway goesOn
  · change Deliverer.Underway (agent.stepCollector plan).session agent.deliverer
    exact underway.modifyHub fun _ =>
      (agent.collector.step plan.collection agent.session.cancelled agent.hub).1

theorem Reached.underway (reached : Reached plan origin agent) (start : origin.Underway)
    (goesOn : agent.session.cancelled = false) : agent.Underway := by
  induction reached with
  | start => exact start
  | @step agent next limit reached step ih =>
      have before := goesOn_before step goesOn
      exact (ih before).step before step
  | wait reached moment ih => exact (ih goesOn).modifyHub _
  | intervene reached intervention ih =>
      cases intervention with
      | nothing => exact ih goesOn
      | add snapshots => exact (ih goesOn).modifyHub _
      | take => exact (ih goesOn).modifyHub _
      | cancel => cases goesOn

theorem Reached.interval (reached : Reached plan origin agent) :
    agent.deliverer.ticker.interval = origin.deliverer.ticker.interval := by
  induction reached with
  | start => rfl
  | step reached step ih =>
      obtain ⟨rfl, -⟩ | ⟨rfl, -⟩ := step?_cases step
      · exact Deliverer.interval_step.trans ih
      · exact ih
  | wait reached moment ih => exact ih
  | intervene reached intervention ih => cases intervention <;> exact ih

/-- An agent with a deliverer is in a round or between two rounds from the beginning. -/
theorem underway_start {courier : Courier} (fresh : courier.link = .disconnected)
    (collecting : Option Nat) (interval : Nat) :
    (Agent.start courier collecting (some interval)).Underway := by
  have state : courier.state = .disconnected := congrArg Link.state fresh
  refine ⟨⟨?_, ?_, rfl, ?_⟩, .inl ⟨rfl, rfl⟩⟩
  · change courier.state ∈ LinkState.resting
    rw [state]
    exact .head _
  · change courier.state ≠ _
    rw [state]
    nofun
  · intro pending waits
    cases waits

end Agent

end NodeTelemetry
