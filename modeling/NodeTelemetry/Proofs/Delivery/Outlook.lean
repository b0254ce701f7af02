/-
# What is to come

After each mark in a chronicle only some marks can be the next one, and some of them only at
one moment. The outlook says which ones. It is read off the chronicle mark by mark, together
with the number of refusals in a row; a chronicle that has a mark where it was not to come
cannot be read to its end.
-/

import NodeTelemetry.Proofs.Delivery.Line

namespace NodeTelemetry

/-- What is to come. -/
inductive Outlook where
  /-- Nothing before the next round. -/
  | round
  /-- A request at once: a round has just begun, and there is no stream. -/
  | request (moment : Nat)
  /-- The answer to a request. -/
  | answer (attempt : Nat)
  /-- The next request, when a delay is over. -/
  | pause (due : Nat)
  /-- Nothing but rounds, until the stream breaks. -/
  | stream (attempt : Nat)
  deriving DecidableEq

/-- The number of refusals in a row after a mark. -/
def Mark.refusals (before : Nat) : Mark → Nat
  | .refused _ => before + 1
  | .accepted _ => 0
  | _ => before

/-- The refusals in a row at the end of a chronicle: those since the beginning, or since
the relay has accepted. -/
def refusalsIn (chronicle : List (Nat × Mark)) : Nat :=
  chronicle.foldl (fun refusals (_, mark) => mark.refusals refusals) 0

/-- As long as nothing is accepted, no refusal is forgotten. -/
theorem refusalsIn_le_append (before : List (Nat × Mark)) {between : List (Nat × Mark)}
    (unaccepted : ∀ entry ∈ between, ∀ attempt, entry.2 ≠ .accepted attempt) :
    refusalsIn before ≤ refusalsIn (before ++ between) := by
  unfold refusalsIn
  rw [List.foldl_append]
  generalize before.foldl _ 0 = count
  induction between generalizing count with
  | nil => exact Nat.le_refl count
  | cons entry rest ih =>
      obtain ⟨here, there⟩ := List.forall_mem_cons.mp unaccepted
      have kept : count ≤ entry.2.refusals count := by
        cases mark : entry.2 with
        | accepted attempt => exact absurd mark (here attempt)
        | refused attempt => exact Nat.le_succ count
        | _ => exact Nat.le_refl count
      exact Nat.le_trans kept (ih there _)

namespace Outlook

variable (delay : Nat → Nat)

/-- What is to come after a mark, unless the mark itself was not to come. The delay after
a refusal goes by the number of refusals before it. -/
def after? (refusals : Nat) : Outlook → Nat × Mark → Option Outlook
  | .round, (moment, .round) => some (.request moment)
  | .request due, (moment, .asked attempt) => if moment = due then some (.answer attempt) else none
  | .pause due, (moment, .asked attempt) => if moment = due then some (.answer attempt) else none
  | .answer attempt, (moment, .refused answered) =>
    if answered = attempt then some (.pause (moment + delay refusals)) else none
  | .answer attempt, (_, .accepted answered) =>
    if answered = attempt then some (.stream attempt) else none
  | .stream attempt, (_, .round) => some (.stream attempt)
  | .stream attempt, (_, .broke broken) => if broken = attempt then some .round else none
  | _, _ => none

/-- Read a chronicle on from an outlook and a number of refusals in a row. -/
def read? : List (Nat × Mark) → Outlook × Nat → Option (Outlook × Nat)
  | [], state => some state
  | entry :: later, (outlook, refusals) =>
    (outlook.after? delay refusals entry).bind fun next =>
      read? later (next, entry.2.refusals refusals)

variable {delay} {chronicle later : List (Nat × Mark)} {state target : Outlook × Nat}

theorem read?_append (chronicle later : List (Nat × Mark)) (state : Outlook × Nat) :
    read? delay (chronicle ++ later) state =
      (read? delay chronicle state).bind (read? delay later) := by
  induction chronicle generalizing state with
  | nil => rfl
  | cons entry rest ih =>
      obtain ⟨outlook, refusals⟩ := state
      change Option.bind _ _ = (Option.bind _ _).bind _
      rw [Option.bind_assoc]
      exact congrArg (Option.bind _) (funext fun next => ih _)

theorem read?_singleton {outlook next : Outlook} {refusals : Nat} {entry : Nat × Mark}
    (comes : outlook.after? delay refusals entry = some next) :
    read? delay [entry] (outlook, refusals) = some (next, entry.2.refusals refusals) := by
  unfold read?
  rw [comes]
  rfl

/-- The refusals in a row are counted on the way. -/
theorem refusals_of_read? (reads : read? delay chronicle state = some target) :
    target.2 = chronicle.foldl (fun refusals (_, mark) => mark.refusals refusals) state.2 := by
  induction chronicle generalizing state with
  | nil =>
      cases reads
      rfl
  | cons entry rest ih =>
      obtain ⟨next, -, reads⟩ := Option.bind_eq_some_iff.mp reads
      exact ih reads

/-- What is to come after some marks, and how the chronicle goes on from there. -/
theorem exists_of_read?_append (reads : read? delay (chronicle ++ later) state = some target) :
    ∃ between, read? delay chronicle state = some between ∧
      read? delay later between = some target := by
  rw [read?_append] at reads
  exact Option.bind_eq_some_iff.mp reads

/-- From one mark on. -/
theorem exists_of_read?_cons {entry : Nat × Mark}
    (reads : read? delay (entry :: later) state = some target) :
    ∃ next, state.1.after? delay state.2 entry = some next ∧
      read? delay later (next, entry.2.refusals state.2) = some target :=
  Option.bind_eq_some_iff.mp reads

/-! ## Marks and outlooks -/

section After

variable {outlook next : Outlook} {refusals moment : Nat} {entry : Nat × Mark}

theorem after?_refused {attempt : Nat}
    (comes : outlook.after? delay refusals (moment, .refused attempt) = some next) :
    next = .pause (moment + delay refusals) := by
  cases outlook with
  | answer expected =>
      simp only [after?] at comes
      split at comes
      · exact (Option.some.inj comes).symm
      · cases comes
  | _ => cases comes

theorem after?_accepted {attempt : Nat}
    (comes : outlook.after? delay refusals (moment, .accepted attempt) = some next) :
    next = .stream attempt := by
  cases outlook with
  | answer expected =>
      simp only [after?] at comes
      split at comes
      · next same =>
          rw [same]
          exact (Option.some.inj comes).symm
      · cases comes
  | _ => cases comes

theorem after?_broke {stream : Nat}
    (comes : outlook.after? delay refusals (moment, .broke stream) = some next) :
    next = .round := by
  cases outlook with
  | stream held =>
      simp only [after?] at comes
      split at comes
      · exact (Option.some.inj comes).symm
      · cases comes
  | _ => cases comes

/-- A request that is to come at a moment comes at that moment. -/
theorem exists_asked {due : Nat} (asks : outlook = .pause due ∨ outlook = .request due)
    (comes : outlook.after? delay refusals entry = some next) :
    ∃ attempt, entry = (due, .asked attempt) := by
  obtain ⟨moment, mark⟩ := entry
  cases mark with
  | asked attempt =>
      have onTime : (if moment = due then some (answer attempt) else none) = some next := by
        obtain rfl | rfl := asks
        · exact comes
        · exact comes
      split at onTime
      · next same => exact ⟨attempt, by rw [same]⟩
      · cases onTime
  | _ => obtain rfl | rfl := asks <;> cases comes

theorem exists_round_of_round (comes : round.after? delay refusals entry = some next) :
    ∃ begins, entry = (begins, .round) ∧ next = .request begins := by
  obtain ⟨moment, mark⟩ := entry
  cases mark with
  | round => exact ⟨moment, rfl, (Option.some.inj comes).symm⟩
  | _ => cases comes

theorem round_or_broke_of_stream {held : Nat}
    (comes : (stream held).after? delay refusals entry = some next) :
    entry.2 = .round ∧ next = .stream held ∨ entry.2 = .broke held := by
  obtain ⟨moment, mark⟩ := entry
  cases mark with
  | round => exact .inl ⟨rfl, (Option.some.inj comes).symm⟩
  | broke broken =>
      simp only [after?] at comes
      split at comes
      · next same => exact .inr (congrArg Mark.broke same)
      · cases comes
  | _ => cases comes

end After

/-! ## Chronicles that can be read -/

variable {before : List (Nat × Mark)} {moment attempt : Nat}

/-- A refusal is followed by the next request, at the moment at which the delay is over. -/
theorem read?_refused
    (reads : read? delay (before ++ (moment, .refused attempt) :: later) (.round, 0) =
      some target) :
    (later = [] ∧ target.1 = .pause (moment + delay (refusalsIn before))) ∨
      ∃ next rest, later = (moment + delay (refusalsIn before), .asked next) :: rest := by
  obtain ⟨⟨outlook, refusals⟩, earlier, reads⟩ := exists_of_read?_append reads
  have counted : refusals = refusalsIn before := refusals_of_read? earlier
  obtain ⟨next, comes, reads⟩ := exists_of_read?_cons reads
  obtain rfl := after?_refused comes
  rw [← counted]
  cases later with
  | nil =>
      cases reads
      exact .inl ⟨rfl, rfl⟩
  | cons entry rest =>
      obtain ⟨next, comes, -⟩ := exists_of_read?_cons reads
      obtain ⟨next, rfl⟩ := exists_asked (.inl rfl) comes
      exact .inr ⟨next, rest, rfl⟩

/-- As long as a stream is there, only rounds begin, until it breaks. -/
theorem read?_stream {refusals : Nat}
    (reads : read? delay later (.stream attempt, refusals) = some target) :
    ∃ rounds rest, later = rounds ++ rest ∧ (∀ entry ∈ rounds, entry.2 = .round) ∧
      (rest = [] ∨ ∃ breaks more, rest = (breaks, .broke attempt) :: more) := by
  induction later generalizing refusals with
  | nil => exact ⟨[], [], rfl, List.forall_mem_nil _, .inl rfl⟩
  | cons entry later ih =>
      obtain ⟨next, comes, reads⟩ := exists_of_read?_cons reads
      obtain ⟨isRound, rfl⟩ | breaks := round_or_broke_of_stream comes
      · obtain ⟨rounds, rest, rfl, areRounds, ends⟩ := ih reads
        exact ⟨entry :: rounds, rest, rfl, List.forall_mem_cons.mpr ⟨isRound, areRounds⟩, ends⟩
      · refine ⟨[], entry :: later, rfl, List.forall_mem_nil _, .inr ⟨entry.1, later, ?_⟩⟩
        rw [← breaks]

/-- After a request was accepted, no further one is made until the stream breaks. -/
theorem read?_accepted
    (reads : read? delay (before ++ (moment, .accepted attempt) :: later) (.round, 0) =
      some target) :
    ∃ rounds rest, later = rounds ++ rest ∧ (∀ entry ∈ rounds, entry.2 = .round) ∧
      (rest = [] ∨ ∃ breaks more, rest = (breaks, .broke attempt) :: more) := by
  obtain ⟨state, -, reads⟩ := exists_of_read?_append reads
  obtain ⟨next, comes, reads⟩ := exists_of_read?_cons reads
  obtain rfl := after?_accepted comes
  exact read?_stream reads

/-- After a stream has broken, the next request is made as soon as the next round begins. -/
theorem read?_broke
    (reads : read? delay (before ++ (moment, .broke attempt) :: later) (.round, 0) =
      some target) :
    later = [] ∨ ∃ begins, later = [(begins, .round)] ∧ target.1 = .request begins ∨
      ∃ next rest, later = (begins, .round) :: (begins, .asked next) :: rest := by
  obtain ⟨state, -, reads⟩ := exists_of_read?_append reads
  obtain ⟨next, comes, reads⟩ := exists_of_read?_cons reads
  obtain rfl := after?_broke comes
  cases later with
  | nil => exact .inl rfl
  | cons entry rest =>
      obtain ⟨next, comes, reads⟩ := exists_of_read?_cons reads
      obtain ⟨begins, rfl, rfl⟩ := exists_round_of_round comes
      refine .inr ⟨begins, ?_⟩
      cases rest with
      | nil =>
          cases reads
          exact .inl ⟨rfl, rfl⟩
      | cons entry rest =>
          obtain ⟨next, comes, -⟩ := exists_of_read?_cons reads
          obtain ⟨next, rfl⟩ := exists_asked (.inr rfl) comes
          exact .inr ⟨next, rest, rfl⟩

end Outlook

end NodeTelemetry
