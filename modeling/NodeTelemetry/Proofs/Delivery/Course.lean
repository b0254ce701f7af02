/-
# Courses

A course is what an agent goes through when it is on time: it does what is due, first
things first, and time passes only as long as nothing is due before. In between others may
intervene. The chronicle of a course lists the marks that the journal got on the way,
together with the beginnings of rounds, which are not in the journal.
-/

import NodeTelemetry.Proofs.Delivery.Line

namespace NodeTelemetry

open Delivery

namespace Agent

/-- The round that a step of an agent begins, if it begins one. -/
def roundBegun (agent next : Agent) : List (Nat × Mark) :=
  if agent.deliverer.rounds < next.deliverer.rounds then [(next.hub.now, .round)] else []

/-- A step of an agent, as it is chronicled: a round that begins comes before the marks
that the step leaves. -/
def news (agent next : Agent) : List (Nat × Mark) :=
  agent.roundBegun next ++ next.hub.marks.drop agent.hub.marks.length

/-- These entries tell which marks the journal got between two agents, and how many rounds
began. -/
structure Tells (chronicle : List (Nat × Mark)) (agent next : Agent) : Prop where
  marks : next.hub.marks = agent.hub.marks ++ chronicle.filter (·.2 ≠ .round)
  rounds : next.deliverer.rounds = agent.deliverer.rounds + chronicle.countP (·.2 = .round)

/-- What an agent can go through if it is on time. -/
inductive Course (plan : Plan) (origin : Agent) : Agent → Type where
  | start : Course plan origin origin
  | step {agent next : Agent} (course : Course plan origin agent)
      (goesOn : agent.step? plan none = some next) : Course plan origin next
  | wait {agent : Agent} (course : Course plan origin agent) (moment : Nat)
      (rests : agent.step? plan (some moment) = none) :
      Course plan origin (agent.modifyHub (·.waitUntil moment))
  | intervene {agent : Agent} (course : Course plan origin agent)
      (intervention : Intervention) : Course plan origin (agent.intervene intervention).2

section Telling

variable {origin agent next : Agent} {chronicle later : List (Nat × Mark)}

/-- Rounds are not in the journal. -/
theorem not_round_of_mem_marks {hub : Hub} {entry : Nat × Mark} (listed : entry ∈ hub.marks) :
    entry.2 ≠ .round := by
  obtain ⟨⟨nanos, event⟩, -, leaves⟩ := List.mem_filterMap.mp listed
  obtain ⟨mark, isMark, rfl⟩ := Option.map_eq_some_iff.mp leaves
  rintro rfl
  cases event <;> cases isMark

theorem Tells.trans (earlier : Tells chronicle origin agent) (after : Tells later agent next) :
    Tells (chronicle ++ later) origin next := by
  refine ⟨?_, ?_⟩
  · rw [after.marks, earlier.marks, List.filter_append, List.append_assoc]
  · rw [after.rounds, earlier.rounds, List.countP_append, Nat.add_assoc]

/-- Nothing to tell. -/
theorem tells_nil (marks : next.hub.marks = agent.hub.marks)
    (rounds : next.deliverer.rounds = agent.deliverer.rounds) : Tells [] agent next :=
  ⟨marks.trans (List.append_nil _).symm, rounds⟩

theorem news_eq (marks : next.hub.marks = agent.hub.marks ++ later) :
    agent.news next = agent.roundBegun next ++ later := by
  unfold news
  rw [marks, List.drop_left]

theorem tells_news (marks : next.hub.marks = agent.hub.marks ++ later)
    (rounds : next.deliverer.rounds = agent.deliverer.rounds ∨
      next.deliverer.rounds = agent.deliverer.rounds + 1) :
    Tells (agent.news next) agent next := by
  have noRound : ∀ entry ∈ later, entry.2 ≠ .round := by
    intro entry listed
    apply @not_round_of_mem_marks next.hub
    rw [marks]
    exact List.mem_append_right _ listed
  have allMarks : later.filter (·.2 ≠ .round) = later :=
    List.filter_eq_self.mpr fun entry listed => decide_eq_true (noRound entry listed)
  have noRounds : later.countP (·.2 = .round) = 0 :=
    List.countP_eq_zero.mpr fun entry listed isRound =>
      noRound entry listed (of_decide_eq_true isRound)
  rw [news_eq marks]
  unfold roundBegun
  obtain same | more := rounds
  · rw [if_neg (by omega)]
    exact ⟨marks.trans (congrArg _ allMarks.symm), same.trans (congrArg (_ + ·) noRounds.symm)⟩
  · rw [if_pos (by omega)]
    refine ⟨marks.trans (congrArg _ allMarks.symm), ?_⟩
    rw [more, List.countP_append, noRounds]
    rfl

end Telling

/-- What is done before a limit is what is done next. -/
theorem step?_none_of_step? {plan : Plan} {agent next : Agent} {limit : Option Nat}
    (step : agent.step? plan limit = some next) :
    agent.step? plan none = some next := by
  have always : ∀ {moment : Option Nat}, before moment limit → before moment none := by
    intro moment sooner
    cases moment with
    | none => cases sooner
    | some moment => rfl
  unfold step? at step ⊢
  simp only at step ⊢
  split at step
  · rename_i first
    split at step
    · rename_i sooner
      rw [if_pos first, if_pos (always sooner)]
      exact step
    · cases step
  · rename_i notFirst
    split at step
    · rename_i sooner
      rw [if_neg notFirst, if_pos (always sooner)]
      exact step
    · cases step

namespace Course

variable {plan : Plan} {origin agent next : Agent}

/-- The beginnings of rounds and the marks of the journal, in order. -/
def chronicle {agent : Agent} : Course plan origin agent → List (Nat × Mark)
  | .start => []
  | @Course.step _ _ before next course _ => course.chronicle ++ before.news next
  | .wait course _ _ => course.chronicle
  | .intervene course _ => course.chronicle

theorem reached (course : Course plan origin agent) : Reached plan origin agent := by
  induction course with
  | start => exact .start
  | step course goesOn ih => exact ih.step goesOn
  | wait course moment rests ih => exact ih.wait moment
  | intervene course intervention ih => exact ih.intervene intervention

/-! ### Runs -/

/-- Agents of which each is the next step of the one before it. -/
def along {agents : Nat → Agent} : (steps : Nat) →
    (∀ step < steps, (agents step).step? plan none = some (agents (step + 1))) →
    Course plan (agents 0) (agents steps)
  | 0, _ => .start
  | steps + 1, goesOn =>
    (along steps fun step early => goesOn step (Nat.lt_succ_of_lt early)).step
      (goesOn steps (Nat.lt_succ_self steps))

theorem nonempty_advance (course : Course plan origin agent) (limit : Option Nat)
    (steps : Nat) : Nonempty (Course plan origin (agent.advance plan limit steps)) := by
  refine advance_keeps (motive := fun later => Nonempty (Course plan origin later)) ?_
    ⟨course⟩ steps
  rintro agent next ⟨course⟩ goesOn
  exact ⟨course.step (step?_none_of_step? goesOn)⟩

/-- An agent that runs until some moment is on time if it has steps enough. -/
theorem nonempty_runUntil (course : Course plan origin agent) {steps moment : Nat}
    (enough : (agent.advance plan (some moment) steps).step? plan (some moment) = none) :
    Nonempty (Course plan origin (agent.runUntil plan steps moment)) := by
  obtain ⟨later⟩ := course.nonempty_advance (some moment) steps
  exact ⟨later.wait moment enough⟩

theorem nonempty_finish (course : Course plan origin agent) (steps : Nat) :
    Nonempty (Course plan origin (agent.finish plan steps)) :=
  (course.intervene .cancel).nonempty_advance none steps

end Course

end Agent

end NodeTelemetry
