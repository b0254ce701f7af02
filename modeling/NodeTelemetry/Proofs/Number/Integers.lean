/-
# Integers and their spelling

An integer is a whole number or a run of digits after a minus sign. Those that fit a signed
64-bit word are read. An integer has many spellings, and it is printed in just one of them,
which reads back as the same integer. Every spelling of an integer is a decimal as well, and
no decimal is spelled like a truth value.
-/

import Mathlib.Data.List.Basic
import NodeTelemetry.Proofs.Number.Literals

namespace NodeTelemetry.Literal

/-- An integer and its value. -/
inductive IsInteger : List Char → Int → Prop where
  | unsigned {text : List Char} {n : Nat} (isWhole : IsWhole text n) : IsInteger text n
  | minus {digits : List Char} (isDigits : IsDigits digits) :
      IsInteger ('-' :: digits) (-(digitsValue 0 digits : Int))

/-- An integer fits a signed 64-bit word. -/
def FitsInt64 (n : Int) : Prop := -0x8000000000000000 ≤ n ∧ n < 0x8000000000000000

theorem fitsInt64_natCast {m : Nat} : FitsInt64 (m : Int) ↔ m ≤ 0x8000000000000000 - 1 := by
  unfold FitsInt64
  omega

theorem fitsInt64_neg_natCast {m : Nat} : FitsInt64 (-(m : Int)) ↔ m ≤ 0x8000000000000000 := by
  unfold FitsInt64
  omega

section Reading

variable {text digits : List Char} {n : Int} {m : Nat}

theorem IsWhole.begins (isWhole : IsWhole text m) :
    Begins (fun c => isDigit c = true ∨ c = '+') text := by
  cases isWhole with
  | plain isDigits =>
      obtain ⟨c, rest, rfl⟩ := List.exists_cons_of_ne_nil isDigits.nonempty
      exact ⟨c, rest, rfl, .inl (isDigits.all c List.mem_cons_self)⟩
  | plus isDigits => exact ⟨'+', _, rfl, .inr rfl⟩

/-- An integer that fits is read, and nothing else is. -/
theorem readInt64?_eq_some_iff :
    readInt64? text = some n ↔ IsInteger text n ∧ FitsInt64 n := by
  unfold readInt64?
  split
  · next digits =>
      have notWhole : ∀ {m : Nat}, ¬IsWhole ('-' :: digits) m := fun isWhole => by
        obtain ⟨c, rest, same, begins⟩ := isWhole.begins
        obtain ⟨rfl, -⟩ := List.cons.inj same
        exact absurd begins (by decide)
      have signed : IsInteger ('-' :: digits) n ↔
          IsDigits digits ∧ n = -(digitsValue 0 digits : Int) := by
        refine ⟨fun isInteger => ?_, fun ⟨isDigits, same⟩ => same ▸ .minus isDigits⟩
        cases isInteger with
        | unsigned isWhole => exact absurd isWhole notWhole
        | minus isDigits => exact ⟨isDigits, rfl⟩
      rw [signed]
      split
      · next unread =>
          refine ⟨nofun, fun ⟨⟨isDigits, _⟩, _⟩ => ?_⟩
          obtain ⟨c, rest, rfl, notPlus, -⟩ := isDigits.begins
          simp [notPlus] at unread
      · next begins =>
          have reads : ∀ m, readWhole 0x8000000000000000 digits = .ok m ↔
              IsWhole digits m ∧ FitsInt64 (-(m : Int)) := fun m => by
            rw [readWhole_eq_ok_iff, fitsInt64_neg_natCast]
          cases found : readWhole 0x8000000000000000 digits with
          | ok m =>
              obtain ⟨isWhole, fits⟩ := (reads m).mp found
              cases isWhole with
              | plain isDigits =>
                  rw [Option.some.injEq]
                  exact ⟨fun same => ⟨⟨isDigits, same.symm⟩, same ▸ fits⟩,
                    fun known => known.1.2.symm⟩
              | plus isDigits => simp at begins
          | error fault =>
              refine ⟨nofun, ?_⟩
              rintro ⟨⟨isDigits, rfl⟩, fits⟩
              rw [(reads _).mpr ⟨.plain isDigits, fits⟩] at found
              cases found
  · next unsigned =>
      have signed : IsInteger text n ↔ ∃ m : Nat, IsWhole text m ∧ n = m := by
        refine ⟨fun isInteger => ?_, fun ⟨m, isWhole, same⟩ => same ▸ .unsigned isWhole⟩
        cases isInteger with
        | unsigned isWhole => exact ⟨_, isWhole, rfl⟩
        | minus _ => exact absurd rfl (unsigned _)
      have reads : ∀ m : Nat, readWhole (0x8000000000000000 - 1) text = .ok m ↔
          IsWhole text m ∧ FitsInt64 m := fun m => by
        rw [readWhole_eq_ok_iff, fitsInt64_natCast]
      rw [signed]
      cases found : readWhole (0x8000000000000000 - 1) text with
      | ok m =>
          obtain ⟨isWhole, fits⟩ := (reads m).mp found
          rw [Option.some.injEq]
          refine ⟨fun same => ⟨⟨m, isWhole, same.symm⟩, same ▸ fits⟩, ?_⟩
          rintro ⟨⟨other, isOther, rfl⟩, fitsOther⟩
          rw [(reads other).mpr ⟨isOther, fitsOther⟩] at found
          cases found
          rfl
      | error fault =>
          refine ⟨nofun, ?_⟩
          rintro ⟨⟨other, isOther, rfl⟩, fitsOther⟩
          rw [(reads other).mpr ⟨isOther, fitsOther⟩] at found
          cases found

end Reading

/-! ## Printing -/

theorem digit?_of_isDigit {c : Char} (isDigit : c.isDigit = true) :
    digit? c = some (c.toNat - '0'.toNat) :=
  if_pos (by simpa [Char.isDigit, Char.le_def] using isDigit)

theorem isDigits_toDigits (n : Nat) : IsDigits (Nat.toDigits 10 n) := by
  refine ⟨Nat.toDigits_ne_nil, fun c listed => ?_⟩
  rw [isDigit, digit?_of_isDigit (Nat.isDigit_of_mem_toDigits (by decide) (by decide) listed)]
  rfl

theorem digitsValue_toDigits (n : Nat) : digitsValue 0 (Nat.toDigits 10 n) = n := by
  have same : digitsValue 0 (Nat.toDigits 10 n) = Nat.ofDigitChars 10 (Nat.toDigits 10 n) 0 := by
    refine List.foldl_ext _ _ _ fun value c listed => ?_
    rw [digit?_of_isDigit (Nat.isDigit_of_mem_toDigits (by decide) (by decide) listed)]
    rfl
  rw [same, Nat.ofDigitChars_ten_toDigits]

/-- An integer is printed in one of its spellings. -/
theorem isInteger_toString (n : Int) : IsInteger (toString n).toList n := by
  cases n with
  | ofNat m =>
      have same : (toString (Int.ofNat m)).toList = Nat.toDigits 10 m := Nat.toList_repr
      have isWhole := IsWhole.plain (isDigits_toDigits m)
      rw [digitsValue_toDigits] at isWhole
      rw [same]
      exact .unsigned isWhole
  | negSucc m =>
      have same : (toString (Int.negSucc m)).toList = '-' :: Nat.toDigits 10 (m + 1) := by
        change ("-" ++ Nat.repr (m + 1)).toList = _
        rw [String.toList_append, Nat.toList_repr]
        rfl
      have isInteger := IsInteger.minus (isDigits_toDigits (m + 1))
      rw [digitsValue_toDigits] at isInteger
      rw [same]
      exact isInteger

/-! ## Integers among decimals -/

section Decimals

variable {text digits : List Char} {n : Int} {m : Nat} {x : Binary64}

theorem IsDigits.isNumber (isDigits : IsDigits digits) (negative : Bool) :
    IsNumber negative digits (.ofDecimal negative (digitsValue 0 digits) 0) := by
  have isNumber := @IsNumber.digits negative digits [] [] [] 0 isDigits.all .none
    (.inl isDigits.nonempty) .none
  rwa [List.append_nil, List.append_nil] at isNumber

/-- Every integer is a decimal. -/
theorem IsInteger.isDecimal (isInteger : IsInteger text n) : ∃ x, IsDecimal text x := by
  cases isInteger with
  | unsigned isWhole =>
      cases isWhole with
      | plain isDigits => exact ⟨_, .number .none (isDigits.isNumber _)⟩
      | plus isDigits => exact ⟨_, .number .plus (isDigits.isNumber _)⟩
  | minus isDigits => exact ⟨_, .number .minus (isDigits.isNumber _)⟩

/-- In lower case, a decimal begins with a sign, a digit, a point, or the first letter of one
of its words. -/
theorem IsDecimal.begins (isDecimal : IsDecimal text x) :
    Begins (fun c => c ∈ ['+', '-', '.', 'i', 'n'] ∨ isDigit c = true) (Text.lowerAscii text) := by
  have signed : ∀ {sign rest : List Char} {negative : Bool}, IsSign sign negative →
      Begins (fun c => c ∈ ['+', '-', '.', 'i', 'n'] ∨ isDigit c = true) (Text.lowerAscii rest) →
      Begins (fun c => c ∈ ['+', '-', '.', 'i', 'n'] ∨ isDigit c = true)
        (Text.lowerAscii (sign ++ rest)) := by
    intro sign rest negative isSign begins
    cases isSign with
    | none => exact begins
    | plus => exact ⟨'+', _, rfl, by decide⟩
    | minus => exact ⟨'-', _, rfl, by decide⟩
  cases isDecimal with
  | infinity isSign spelled =>
      refine signed isSign ?_
      rcases spelled with short | long
      · exact ⟨'i', _, short, by decide⟩
      · exact ⟨'i', _, long, by decide⟩
  | nan isSign spelled => exact signed isSign ⟨'n', _, spelled, by decide⟩
  | number isSign isNumber =>
      refine signed isSign ?_
      obtain ⟨c, rest, rfl, begins⟩ := isNumber.begins
      have same : Text.lowerAscii (c :: rest) = c :: Text.lowerAscii rest := by
        rw [Text.lowerAscii, List.map_cons, toLower_of_begins begins]
        rfl
      refine ⟨c, _, same, ?_⟩
      rcases begins with digit | rfl
      · exact .inr digit
      · exact .inl (by decide)

/-- No decimal is spelled like a truth value. -/
theorem IsDecimal.ne_truth (isDecimal : IsDecimal text x) :
    Text.lowerAscii text ≠ "true".toList ∧ Text.lowerAscii text ≠ "false".toList := by
  obtain ⟨c, rest, same, begins⟩ := isDecimal.begins
  rw [same]
  constructor <;> intro truth <;> obtain ⟨rfl, -⟩ := List.cons.inj truth <;>
    exact absurd begins (by decide)

end Decimals

end NodeTelemetry.Literal
