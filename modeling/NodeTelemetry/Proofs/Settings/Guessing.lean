/-
# What variables are taken for

The value of a variable is taken for a truth value or a number if it reads as one, and for a
text otherwise, before it is known what the setting asks for. Where a text is asked for, what
the value was taken for is printed again. A value that is spelled as that is printed is kept,
and any other spelling is lost.
-/

import NodeTelemetry.Proofs.Number.Integers
import NodeTelemetry.Proofs.Settings.Overriding

namespace NodeTelemetry.Settings

/-! ## What a variable is taken for -/

namespace Environment

/-- The word for a truth value. -/
def truthWord (truth : Bool) : String := if truth then "true" else "false"

/-- A spelling of a truth value. -/
def IsTruth (value : String) (truth : Bool) : Prop := Tree.fold value = truthWord truth

/-- What a value is taken for: a truth value or a number if it is one, an integer rather than
a decimal if it fits, and a text otherwise. -/
inductive IsTakenFor (value : String) : Tree → Prop where
  | flag {truth : Bool} (isTruth : IsTruth value truth) : IsTakenFor value (.flag truth)
  | whole {n : Int} (isInteger : Literal.IsInteger value.toList n) (fits : Literal.FitsInt64 n) :
      IsTakenFor value (.whole n)
  | real {x : Binary64} (isDecimal : Literal.IsDecimal value.toList x)
      (notWhole : ∀ n, Literal.IsInteger value.toList n → ¬Literal.FitsInt64 n) :
      IsTakenFor value (.real x)
  | text (noTruth : ∀ truth, ¬IsTruth value truth)
      (noNumber : ∀ x, ¬Literal.IsDecimal value.toList x) : IsTakenFor value (.text value)

/-- Values that are printed as they were spelled. -/
inductive Kept (value : String) : Prop where
  | flag {truth : Bool} (spelled : value = truthWord truth) : Kept value
  | whole {n : Int} (fits : Literal.FitsInt64 n) (spelled : value = toString n) : Kept value
  | real {x : Binary64} (isDecimal : Literal.IsDecimal value.toList x)
      (notWhole : ∀ n, Literal.IsInteger value.toList n → ¬Literal.FitsInt64 n)
      (spelled : value = x.toDecimalText) : Kept value
  | text (noTruth : ∀ truth, ¬IsTruth value truth)
      (noNumber : ∀ x, ¬Literal.IsDecimal value.toList x) : Kept value

section Guessing

variable {value : String} {truth : Bool} {tree : Tree} {n : Int} {x : Binary64}

theorem IsTruth.lowerAscii (isTruth : IsTruth value truth) :
    Text.lowerAscii value.toList = (truthWord truth).toList := by
  have same := congrArg String.toList isTruth
  rwa [Tree.fold, String.toList_ofList] at same

/-- A number is no truth value. -/
theorem not_isTruth (isDecimal : Literal.IsDecimal value.toList x) : ¬IsTruth value truth := by
  intro isTruth
  cases truth with
  | true => exact isDecimal.ne_truth.1 isTruth.lowerAscii
  | false => exact isDecimal.ne_truth.2 isTruth.lowerAscii

theorem guess_of_isTruth (isTruth : IsTruth value truth) : guess value = .flag truth := by
  unfold guess
  dsimp only
  rw [isTruth]
  cases truth <;> rfl

/-- A value that is no truth value is taken for a number if it is one. -/
theorem guess_of_not_isTruth (noTruth : ∀ truth, ¬IsTruth value truth) :
    guess value = (Literal.readInt64? value.toList).elim
      ((Literal.readDecimal value.toList).toOption.elim (.text value) .real) .whole := by
  have notTrue : Tree.fold value ≠ "true" := noTruth true
  have notFalse : Tree.fold value ≠ "false" := noTruth false
  unfold guess
  dsimp only
  rw [if_neg notTrue, if_neg notFalse]
  cases Literal.readInt64? value.toList with
  | some n => rfl
  | none => cases Literal.readDecimal value.toList <;> rfl

theorem isTakenFor_guess (value : String) : IsTakenFor value (guess value) := by
  by_cases isTruth : ∃ truth, IsTruth value truth
  · obtain ⟨truth, isTruth⟩ := isTruth
    rw [guess_of_isTruth isTruth]
    exact .flag isTruth
  · have noTruth := not_exists.mp isTruth
    rw [guess_of_not_isTruth noTruth]
    cases whole : Literal.readInt64? value.toList with
    | some n =>
        obtain ⟨isInteger, fits⟩ := Literal.readInt64?_eq_some_iff.mp whole
        exact .whole isInteger fits
    | none =>
        cases real : Literal.readDecimal value.toList with
        | ok x =>
            refine .real (Literal.readDecimal_eq_ok_iff.mp real) fun n isInteger fits => ?_
            rw [Literal.readInt64?_eq_some_iff.mpr ⟨isInteger, fits⟩] at whole
            cases whole
        | error fault => exact .text noTruth (Literal.readDecimal_eq_error_iff.mp real).1

/-- A value is taken for one thing only. -/
theorem guess_eq_iff : guess value = tree ↔ IsTakenFor value tree := by
  refine ⟨fun same => same ▸ isTakenFor_guess value, fun isTakenFor => ?_⟩
  have unread : (∀ n, Literal.IsInteger value.toList n → ¬Literal.FitsInt64 n) →
      Literal.readInt64? value.toList = none := by
    intro notWhole
    rw [Option.eq_none_iff_forall_ne_some]
    intro n read
    obtain ⟨isInteger, fits⟩ := Literal.readInt64?_eq_some_iff.mp read
    exact notWhole n isInteger fits
  cases isTakenFor with
  | flag isTruth => exact guess_of_isTruth isTruth
  | whole isInteger fits =>
      obtain ⟨x, isDecimal⟩ := isInteger.isDecimal
      rw [guess_of_not_isTruth fun _ => not_isTruth isDecimal,
        Literal.readInt64?_eq_some_iff.mpr ⟨isInteger, fits⟩]
      rfl
  | real isDecimal notWhole =>
      rw [guess_of_not_isTruth fun _ => not_isTruth isDecimal, unread notWhole,
        Literal.readDecimal_eq_ok_iff.mpr isDecimal]
      rfl
  | text noTruth noNumber =>
      rw [guess_of_not_isTruth noTruth, unread fun n isInteger => ?_]
      · cases read : Literal.readDecimal value.toList with
        | ok x => exact absurd (Literal.readDecimal_eq_ok_iff.mp read) (noNumber x)
        | error fault => rfl
      · obtain ⟨x, isDecimal⟩ := isInteger.isDecimal
        exact absurd isDecimal (noNumber x)

theorem isTruth_truthWord (truth : Bool) : IsTruth (truthWord truth) truth := by
  unfold IsTruth
  cases truth <;> decide

/-- A value is kept if it is what it is taken for, spelled as that is printed. -/
theorem text?_guess_eq_iff : (guess value).text? = some value ↔ Kept value := by
  constructor
  · have taken := isTakenFor_guess value
    generalize guess value = tree at taken
    intro printed
    cases taken with
    | flag isTruth => exact .flag (Option.some.inj printed).symm
    | whole isInteger fits => exact .whole fits (Option.some.inj printed).symm
    | real isDecimal notWhole => exact .real isDecimal notWhole (Option.some.inj printed).symm
    | text noTruth noNumber => exact .text noTruth noNumber
  · intro kept
    cases kept with
    | flag spelled =>
        rw [spelled, guess_of_isTruth (isTruth_truthWord _)]
        rfl
    | whole fits spelled =>
        rw [spelled, guess_eq_iff.mpr (.whole (Literal.isInteger_toString _) fits)]
        rfl
    | real isDecimal notWhole spelled =>
        rw [guess_eq_iff.mpr (.real isDecimal notWhole), Tree.text?, ← spelled]
    | text noTruth noNumber =>
        rw [guess_eq_iff.mpr (.text noTruth noNumber)]
        rfl

example : ["TRUE", "+5", "1e3", "nan"].map (fun value => (guess value).text?) =
    [some "true", some "5", some "1000", some "NaN"] := by
  decide +kernel

/-- A value is taken for no table, and it is not taken for nothing. -/
theorem fits_guess (value : String) : (guess value).fits [] := by
  have taken := isTakenFor_guess value
  generalize guess value = tree at taken
  cases taken <;> rfl

theorem guess_ne_null (value : String) : guess value ≠ .null := by
  have taken := isTakenFor_guess value
  generalize guess value = tree at taken
  cases taken <;> exact nofun

end Guessing

/-! ## Variables -/

/-- The variable of a key has a value, and no other variable is about the same setting. -/
structure Sets (environment : Environment) (key : Key) (value : String) : Prop where
  listed : (key.variableName, value) ∈ environment
  alone : ∀ entry ∈ environment, entry = (key.variableName, value) ∨
    ∀ name tree, setting? entry.1 entry.2 = some (name, tree) →
      Tree.apart ((Tree.pathOf name).map Tree.fold) key.path

namespace Sets

variable {environment : Environment} {key : Key} {value : String}

/-- What a variable says is what the value of the key is taken for, or about something else. -/
theorem layer_cases (sets : environment.Sets key value) :
    ∀ entry ∈ environment.layer, (Tree.pathOf entry.1 = key.path ∧ entry.2 = guess value) ∨
      Tree.apart ((Tree.pathOf entry.1).map Tree.fold) key.path := by
  intro entry listed
  obtain ⟨⟨name, spelled⟩, hvariable, hsetting⟩ := List.mem_filterMap.mp listed
  rcases sets.alone _ hvariable with same | apart
  · obtain ⟨path, itself, leads⟩ := setting?_variableName key value
    obtain ⟨rfl, rfl⟩ := Prod.mk.inj same
    dsimp only at hsetting
    rw [itself] at hsetting
    cases hsetting
    exact .inl ⟨leads, rfl⟩
  · exact .inr (apart _ _ hsetting)

theorem fits_layer (sets : environment.Sets key value) :
    (Tree.spread environment.layer).fits key.path := by
  rw [Tree.fits_spread key.path_ne_nil]
  intro entry listed
  rcases sets.layer_cases entry listed with ⟨leads, taken⟩ | apart
  · rw [leads, taken]
    exact Key.fits_nest (fits_guess value) key key
  · exact Tree.fits_nest_apart apart _

theorem sets?_eq (sets : environment.Sets key value) :
    environment.sets? key = some (guess value) := by
  obtain ⟨name, itself, leads⟩ := setting?_variableName key value
  have listed : (name, guess value) ∈ environment.layer :=
    List.mem_filterMap.mpr ⟨_, sets.listed, itself⟩
  have own : (Tree.nest (Tree.pathOf name) (guess value)).said key.path = some (guess value) := by
    rw [leads, Key.said_nest, if_pos rfl]
  unfold Environment.sets?
  rw [Tree.said_spread key.path_ne_nil]
  cases found : environment.layer.reverse.findSome?
      fun entry => (Tree.nest (Tree.pathOf entry.1) entry.2).said key.path with
  | none =>
      have silent := List.findSome?_eq_none_iff.mp found _ (List.mem_reverse.mpr listed)
      rw [own] at silent
      cases silent
  | some tree =>
      obtain ⟨entry, there, said⟩ := List.exists_of_findSome?_eq_some found
      rcases sets.layer_cases entry (List.mem_reverse.mp there) with ⟨path, taken⟩ | apart
      · rw [path, taken, Key.said_nest, if_pos rfl] at said
        exact said.symm
      · rw [Tree.said_nest_apart apart] at said
        cases said

end Sets

end Environment

end NodeTelemetry.Settings
