/-
# The grammars of literals

A whole number is a run of digits after at most one plus sign. A decimal is, after at most
one sign, a word for an infinity or for no number, or digits with at most one point among
them and at most one exponent. The grammars say which texts are literals and what they
stand for, without saying how they are read; reading accepts just these texts, and whole
numbers only up to a bound.
-/

import NodeTelemetry.Number.Literal

namespace NodeTelemetry.Literal

/-! ## Whole numbers -/

/-- Digits, at least one of them. -/
structure IsDigits (digits : List Char) : Prop where
  nonempty : digits ≠ []
  all : ∀ c ∈ digits, isDigit c = true

/-- A whole number and its value. -/
inductive IsWhole : List Char → Nat → Prop where
  | plain {digits : List Char} (isDigits : IsDigits digits) :
      IsWhole digits (digitsValue 0 digits)
  | plus {digits : List Char} (isDigits : IsDigits digits) :
      IsWhole ('+' :: digits) (digitsValue 0 digits)

/-- What is met first in a text that does not continue digits worth `value` up to a bound: a
character that is no digit, or a digit that takes it over the bound. -/
inductive IsDigitsFault (most value : Nat) : List Char → WholeFault → Prop where
  | invalidDigit {digits after : List Char} {c : Char} (all : ∀ c ∈ digits, isDigit c = true)
      (fits : digitsValue value digits ≤ most) (noDigit : isDigit c = false) :
      IsDigitsFault most value (digits ++ c :: after) .invalidDigit
  | tooLarge {digits after : List Char} (all : ∀ c ∈ digits, isDigit c = true)
      (exceeds : most < digitsValue value digits) :
      IsDigitsFault most value (digits ++ after) .tooLarge

/-- Why a text is no whole number up to a bound. -/
inductive IsWholeFault (most : Nat) : List Char → WholeFault → Prop where
  | empty : IsWholeFault most [] .empty
  | sign : IsWholeFault most ['+'] .invalidDigit
  | plain {text : List Char} {fault : WholeFault} (unsigned : ∀ rest, text ≠ '+' :: rest)
      (isFault : IsDigitsFault most 0 text fault) : IsWholeFault most text fault
  | plus {text : List Char} {fault : WholeFault} (isFault : IsDigitsFault most 0 text fault) :
      IsWholeFault most ('+' :: text) fault

section Whole

variable {most value n : Nat} {digits after text : List Char} {c : Char} {fault : WholeFault}

theorem le_digitsValue (value : Nat) (digits : List Char) : value ≤ digitsValue value digits := by
  induction digits generalizing value with
  | nil => exact Nat.le_refl value
  | cons c rest ih => exact Nat.le_trans (by omega) (ih (10 * value + (digit? c).getD 0))

theorem digitsValue_cons {d : Nat} (worth : digit? c = some d) (value : Nat)
    (rest : List Char) : digitsValue value (c :: rest) = digitsValue (10 * value + d) rest := by
  unfold digitsValue
  rw [List.foldl_cons, worth, Option.getD_some]

/-- Digits are read as what they are worth, unless that is too much. -/
theorem readDigits_eq_ok_iff (small : value ≤ most) :
    readDigits most value digits = .ok n ↔
      (∀ c ∈ digits, isDigit c = true) ∧ digitsValue value digits = n ∧ n ≤ most := by
  induction digits generalizing value with
  | nil =>
      simp only [readDigits, Except.ok.injEq]
      constructor
      · rintro rfl
        exact ⟨List.forall_mem_nil _, rfl, small⟩
      · exact fun reads => reads.2.1
  | cons c rest ih =>
      rw [readDigits, List.forall_mem_cons]
      cases worth : digit? c with
      | none => simp [isDigit, worth]
      | some d =>
          have isDigit : isDigit c = true := by rw [isDigit, worth]; rfl
          rw [digitsValue_cons worth]
          dsimp only
          split
          · next tooLarge =>
              have atLeast := le_digitsValue (10 * value + d) rest
              exact ⟨nofun, fun reads => absurd reads.2.2 (by omega)⟩
          · next fits =>
              rw [ih (Nat.le_of_not_lt fits)]
              simp [isDigit]

/-- Digits within the bound are passed over. -/
theorem readDigits_append (all : ∀ c ∈ digits, isDigit c = true)
    (fits : digitsValue value digits ≤ most) :
    readDigits most value (digits ++ after) =
      readDigits most (digitsValue value digits) after := by
  induction digits generalizing value with
  | nil => rfl
  | cons c rest ih =>
      obtain ⟨first, others⟩ := List.forall_mem_cons.mp all
      obtain ⟨d, worth⟩ := Option.isSome_iff_exists.mp first
      rw [digitsValue_cons worth] at fits ⊢
      have atLeast := le_digitsValue (10 * value + d) rest
      rw [List.cons_append, readDigits, worth]
      dsimp only
      rw [if_neg (by omega), ih others fits]

/-- Whatever comes after a digit that takes the value over the bound, it is not looked at. -/
theorem readDigits_of_exceeds (small : value ≤ most) (all : ∀ c ∈ digits, isDigit c = true)
    (exceeds : most < digitsValue value digits) :
    readDigits most value (digits ++ after) = .error .tooLarge := by
  induction digits generalizing value with
  | nil => exact absurd exceeds (Nat.not_lt.mpr small)
  | cons c rest ih =>
      obtain ⟨first, others⟩ := List.forall_mem_cons.mp all
      obtain ⟨d, worth⟩ := Option.isSome_iff_exists.mp first
      rw [digitsValue_cons worth] at exceeds
      rw [List.cons_append, readDigits, worth]
      dsimp only
      split
      · rfl
      · next fits => exact ih (Nat.le_of_not_lt fits) others exceeds

theorem IsDigitsFault.cons {d : Nat} (worth : digit? c = some d)
    (isFault : IsDigitsFault most (10 * value + d) text fault) :
    IsDigitsFault most value (c :: text) fault := by
  have first : isDigit c = true := by rw [isDigit, worth]; rfl
  cases isFault with
  | invalidDigit all fits noDigit =>
      rw [← digitsValue_cons worth] at fits
      exact .invalidDigit (List.forall_mem_cons.mpr ⟨first, all⟩) fits noDigit
  | tooLarge all exceeds =>
      rw [← digitsValue_cons worth] at exceeds
      exact .tooLarge (List.forall_mem_cons.mpr ⟨first, all⟩) exceeds

theorem readDigits_eq_error_iff (small : value ≤ most) :
    readDigits most value text = .error fault ↔ IsDigitsFault most value text fault := by
  constructor
  · intro fails
    induction text generalizing value with
    | nil => cases fails
    | cons c rest ih =>
        rw [readDigits] at fails
        split at fails
        · next worth =>
            cases fails
            exact @IsDigitsFault.invalidDigit most value [] rest c (List.forall_mem_nil _) small
              (by rw [isDigit, worth]; rfl)
        · next d worth =>
            split at fails
            · next exceeds =>
                cases fails
                exact .cons worth (@IsDigitsFault.tooLarge most _ [] rest (List.forall_mem_nil _)
                  exceeds)
            · next fits => exact .cons worth (ih (Nat.le_of_not_lt fits) fails)
  · rintro (⟨all, fits, noDigit⟩ | ⟨all, exceeds⟩)
    · rename_i c
      have worthless : digit? c = none := Option.isNone_iff_eq_none.mp (by
        rw [← Option.not_isSome]
        exact congrArg not noDigit)
      rw [readDigits_append all fits, readDigits, worthless]
    · exact readDigits_of_exceeds small all exceeds

/-- A whole number up to a bound is read, and nothing else is. -/
theorem readWhole_eq_ok_iff :
    readWhole most text = .ok n ↔ IsWhole text n ∧ n ≤ most := by
  have read : ∀ {digits : List Char}, digits ≠ [] → (readDigits most 0 digits = .ok n ↔
      (IsDigits digits ∧ digitsValue 0 digits = n) ∧ n ≤ most) := by
    intro digits nonempty
    rw [readDigits_eq_ok_iff (Nat.zero_le most)]
    exact ⟨fun ⟨all, value, fits⟩ => ⟨⟨⟨nonempty, all⟩, value⟩, fits⟩,
      fun ⟨⟨isDigits, value⟩, fits⟩ => ⟨isDigits.all, value, fits⟩⟩
  have plus : ¬isDigit '+' = true := by decide
  unfold readWhole
  split
  · refine ⟨nofun, fun ⟨isWhole, _⟩ => ?_⟩
    cases isWhole with
    | plain isDigits => exact absurd rfl isDigits.nonempty
  · refine ⟨nofun, fun ⟨isWhole, _⟩ => ?_⟩
    cases isWhole with
    | plain isDigits => exact absurd (isDigits.all '+' (List.mem_singleton_self _)) plus
    | plus isDigits => exact absurd rfl isDigits.nonempty
  · next digits more =>
      rw [read fun none => more (none ▸ rfl)]
      refine and_congr_left fun _ => ⟨?_, fun isWhole => ?_⟩
      · rintro ⟨isDigits, rfl⟩
        exact .plus isDigits
      · cases isWhole with
        | plain isDigits => exact absurd (isDigits.all '+' List.mem_cons_self) plus
        | plus isDigits => exact ⟨isDigits, rfl⟩
  · next nonempty notPlus unsigned =>
      rw [read fun none => nonempty none]
      refine and_congr_left fun _ => ⟨?_, fun isWhole => ?_⟩
      · rintro ⟨isDigits, rfl⟩
        exact .plain isDigits
      · cases isWhole with
        | plain isDigits => exact ⟨isDigits, rfl⟩
        | plus isDigits => exact absurd rfl (unsigned _)

/-- Reading a whole number fails at the first thing that is wrong with it. -/
theorem readWhole_eq_error_iff :
    readWhole most text = .error fault ↔ IsWholeFault most text fault := by
  have none : ∀ {fault : WholeFault}, ¬IsDigitsFault most 0 [] fault := fun isFault =>
    nomatch (readDigits_eq_error_iff (Nat.zero_le most)).mpr isFault
  unfold readWhole
  split
  · refine ⟨fun fails => ?_, fun isFault => ?_⟩
    · cases fails
      exact .empty
    · cases isFault with
      | empty => rfl
      | plain _ isFault => exact absurd isFault none
  · refine ⟨fun fails => ?_, fun isFault => ?_⟩
    · cases fails
      exact .sign
    · cases isFault with
      | sign => rfl
      | plain unsigned _ => exact absurd rfl (unsigned [])
      | plus isFault => exact absurd isFault none
  · next digits more =>
      rw [readDigits_eq_error_iff (Nat.zero_le most)]
      refine ⟨.plus, fun isFault => ?_⟩
      cases isFault with
      | sign => exact absurd rfl more
      | plain unsigned _ => exact absurd rfl (unsigned digits)
      | plus isFault => exact isFault
  · next nonempty notPlus unsigned =>
      rw [readDigits_eq_error_iff (Nat.zero_le most)]
      refine ⟨.plain fun rest same => unsigned rest same, fun isFault => ?_⟩
      cases isFault with
      | empty => exact absurd rfl nonempty
      | sign => exact absurd rfl notPlus
      | plain _ isFault => exact isFault
      | plus _ => exact absurd rfl (unsigned _)

end Whole

/-! ## Decimals -/

/-- At most one sign, and whether it is a minus. -/
inductive IsSign : List Char → Bool → Prop where
  | none : IsSign [] false
  | plus : IsSign ['+'] false
  | minus : IsSign ['-'] true

/-- At most one exponent, and its value. -/
inductive IsExponent : List Char → Int → Prop where
  | none : IsExponent [] 0
  | some {mark : Char} {sign digits : List Char} {negative : Bool}
      (marks : mark = 'e' ∨ mark = 'E') (isSign : IsSign sign negative)
      (isDigits : IsDigits digits) :
      IsExponent (mark :: (sign ++ digits))
        (if negative then -(digitsValue 0 digits : Int) else digitsValue 0 digits)

/-- At most one point, and the digits behind it. -/
inductive IsFraction : List Char → List Char → Prop where
  | none : IsFraction [] []
  | point {digits : List Char} (all : ∀ c ∈ digits, isDigit c = true) :
      IsFraction ('.' :: digits) digits

/-- A number without its sign, and the double nearest to it. -/
inductive IsNumber (negative : Bool) : List Char → Binary64 → Prop where
  | digits {whole point fraction tail : List Char} {exponent : Int}
      (all : ∀ c ∈ whole, isDigit c = true) (isFraction : IsFraction point fraction)
      (nonempty : whole ≠ [] ∨ fraction ≠ []) (isExponent : IsExponent tail exponent) :
      IsNumber negative (whole ++ (point ++ tail))
        (.ofDecimal negative (digitsValue 0 (whole ++ fraction)) (exponent - fraction.length))

/-- A decimal and the double that it stands for. -/
inductive IsDecimal : List Char → Binary64 → Prop where
  | infinity {sign word : List Char} {negative : Bool} (isSign : IsSign sign negative)
      (spelled : Text.lowerAscii word = "inf".toList ∨
        Text.lowerAscii word = "infinity".toList) :
      IsDecimal (sign ++ word) (.infinity negative)
  | nan {sign word : List Char} {negative : Bool} (isSign : IsSign sign negative)
      (spelled : Text.lowerAscii word = "nan".toList) :
      IsDecimal (sign ++ word) (.nan negative)
  | number {sign rest : List Char} {negative : Bool} {x : Binary64}
      (isSign : IsSign sign negative) (isNumber : IsNumber negative rest x) :
      IsDecimal (sign ++ rest) x

section Decimal

variable {text sign rest digits tail : List Char} {negative : Bool} {exponent : Int}
  {x : Binary64}

/-- A text begins with a character that has a property. -/
def Begins (property : Char → Prop) (text : List Char) : Prop :=
  ∃ c rest, text = c :: rest ∧ property c

theorem exists_isSign (text : List Char) :
    ∃ sign, IsSign sign (splitSign text).1 ∧ text = sign ++ (splitSign text).2 := by
  unfold splitSign
  split
  · exact ⟨_, .minus, rfl⟩
  · exact ⟨_, .plus, rfl⟩
  · exact ⟨_, .none, rfl⟩

/-- What follows a sign is found if it does not begin with a sign itself. -/
theorem splitSign_append (isSign : IsSign sign negative)
    (unsigned : Begins (fun c => c ≠ '+' ∧ c ≠ '-') rest) :
    splitSign (sign ++ rest) = (negative, rest) := by
  cases isSign with
  | none =>
      obtain ⟨c, rest, rfl, notPlus, notMinus⟩ := unsigned
      unfold splitSign
      split
      · next same => exact absurd (List.cons.inj same).1 notMinus
      · next same => exact absurd (List.cons.inj same).1 notPlus
      · rfl
  | plus => rfl
  | minus => rfl

theorem splitDigits_append (all : ∀ c ∈ digits, isDigit c = true)
    (ends : ∀ c ∈ tail.head?, isDigit c = false) :
    splitDigits (digits ++ tail) = (digits, tail) := by
  have none : tail.takeWhile isDigit = [] ∧ tail.dropWhile isDigit = tail := by
    cases tail with
    | nil => exact ⟨rfl, rfl⟩
    | cons c rest => simp [ends c rfl]
  unfold splitDigits
  rw [List.takeWhile_append_of_pos all, List.dropWhile_append_of_pos all, none.1, none.2,
    List.append_nil]

theorem splitDigits_spec (text : List Char) :
    (∀ c ∈ (splitDigits text).1, isDigit c = true) ∧
      text = (splitDigits text).1 ++ (splitDigits text).2 ∧
      ∀ c ∈ (splitDigits text).2.head?, isDigit c = false := by
  refine ⟨List.all_eq_true.mp List.all_takeWhile, List.takeWhile_append_dropWhile.symm, ?_⟩
  intro c first
  have stops := List.head?_dropWhile_not isDigit text
  unfold splitDigits at first
  simp only at first
  rw [first] at stops
  simpa using stops

/-- Digits do not begin with a sign. -/
theorem IsDigits.begins (isDigits : IsDigits digits) :
    Begins (fun c => c ≠ '+' ∧ c ≠ '-') digits := by
  cases digits with
  | nil => exact absurd rfl isDigits.nonempty
  | cons c rest =>
      have isDigit := isDigits.all c List.mem_cons_self
      refine ⟨c, rest, rfl, ?_, ?_⟩ <;> rintro rfl <;> cases isDigit

theorem readExponent?_eq_some_iff :
    readExponent? text = some exponent ↔ IsExponent text exponent := by
  constructor
  · intro reads
    cases text with
    | nil =>
        cases reads
        exact .none
    | cons mark rest =>
        obtain ⟨sign, isSign, same⟩ := exists_isSign rest
        simp only [readExponent?] at reads
        generalize splitSign rest = parts at isSign same reads
        obtain ⟨negative, digits⟩ := parts
        dsimp only at isSign same reads
        subst same
        split at reads
        · next marks =>
            split at reads
            · cases reads
            · next isDigits =>
                cases reads
                simp only [Bool.or_eq_true, List.isEmpty_iff, Bool.not_eq_true',
                  Bool.not_eq_false, not_or, List.all_eq_true] at isDigits
                exact .some marks isSign ⟨isDigits.1, isDigits.2⟩
        · cases reads
  · intro isExponent
    cases isExponent with
    | none => rfl
    | some marks isSign isDigits =>
        have nonempty := isDigits.nonempty
        have all := List.all_eq_true.mpr isDigits.all
        simp [readExponent?, marks, splitSign_append isSign isDigits.begins, nonempty, all]

/-- An exponent begins with its mark. -/
theorem IsExponent.head (isExponent : IsExponent tail exponent) :
    ∀ c ∈ tail.head?, isDigit c = false ∧ c ≠ '.' := by
  intro c first
  cases isExponent with
  | none => cases first
  | some marks isSign isDigits =>
      obtain rfl := Option.some.inj first
      rcases marks with rfl | rfl <;> exact ⟨by decide, by decide⟩

theorem readUnsignedDecimal?_eq_some_iff :
    readUnsignedDecimal? negative text = some x ↔ IsNumber negative text x := by
  constructor
  · intro reads
    unfold readUnsignedDecimal? at reads
    obtain ⟨all, whole, -⟩ := splitDigits_spec text
    generalize splitDigits text = parts at all whole reads
    obtain ⟨digits, rest⟩ := parts
    dsimp only at all whole reads
    -- The rest is the same with a point as without one.
    have finish : ∀ {point fraction tail : List Char}, IsFraction point fraction →
        rest = point ++ tail →
        (if (digits.isEmpty && fraction.isEmpty) = true then none
          else (readExponent? tail).map fun exponent =>
            Binary64.ofDecimal negative (digitsValue 0 (digits ++ fraction))
              (exponent - fraction.length)) = some x →
        IsNumber negative text x := by
      intro point fraction tail isFraction same reads
      split at reads
      · cases reads
      · next nonempty =>
          obtain ⟨exponent, ends, rfl⟩ := Option.map_eq_some_iff.mp reads
          rw [whole, same]
          refine .digits all isFraction ?_ (readExponent?_eq_some_iff.mp ends)
          simpa [Decidable.imp_iff_not_or] using nonempty
    split at reads
    · next after =>
        obtain ⟨allAfter, same, -⟩ := splitDigits_spec after
        exact finish (.point allAfter) (congrArg _ same) reads
    · exact finish .none rfl reads
  · rintro ⟨all, isFraction, nonempty, isExponent⟩
    rename_i whole point fraction tail exponent
    have ends := isExponent.head
    have finish : (if (whole.isEmpty && fraction.isEmpty) = true then none
        else (readExponent? tail).map fun exponent =>
          Binary64.ofDecimal negative (digitsValue 0 (whole ++ fraction))
            (exponent - fraction.length)) =
        some (.ofDecimal negative (digitsValue 0 (whole ++ fraction))
          (exponent - fraction.length)) := by
      rw [readExponent?_eq_some_iff.mpr isExponent, if_neg]
      · rfl
      · simpa [Decidable.imp_iff_not_or] using nonempty
    unfold readUnsignedDecimal?
    cases isFraction with
    | none =>
        rw [List.nil_append, splitDigits_append all fun c first => (ends c first).1]
        dsimp only
        split
        · exact absurd rfl (ends '.' rfl).2
        · exact finish
    | point allFraction =>
        have after := splitDigits_append allFraction fun c first => (ends c first).1
        rw [splitDigits_append all fun c first => by obtain rfl := Option.some.inj first; rfl]
        simp only [List.cons_append, after]
        exact finish

/-- A number begins with a digit or with its point. -/
theorem IsNumber.begins (isNumber : IsNumber negative text x) :
    Begins (fun c => isDigit c = true ∨ c = '.') text := by
  obtain ⟨all, isFraction, nonempty, -⟩ := isNumber
  rename_i whole point fraction tail exponent
  cases whole with
  | cons c rest => exact ⟨c, _, rfl, .inl (all c List.mem_cons_self)⟩
  | nil =>
      cases isFraction with
      | none => simp at nonempty
      | point allFraction => exact ⟨'.', _, rfl, .inr rfl⟩

/-- Neither digits nor points have a case. -/
theorem toLower_of_begins {c : Char} (begins : isDigit c = true ∨ c = '.') : c.toLower = c := by
  rcases begins with isDigit | rfl
  · have bound : '0' ≤ c ∧ c ≤ '9' := by
      unfold Literal.isDigit digit? at isDigit
      split at isDigit
      · assumption
      · cases isDigit
    have notUpper : ¬(c.val ≥ 'A'.val ∧ c.val ≤ 'Z'.val) := by
      intro upper
      have low := UInt32.le_iff_toNat_le.mp upper.1
      have high := UInt32.le_iff_toNat_le.mp bound.2
      change 65 ≤ c.val.toNat at low
      change c.val.toNat ≤ 57 at high
      omega
    unfold Char.toLower
    rw [dif_neg notUpper]
  · rfl

/-- A decimal is read, and nothing else is. -/
theorem readDecimal_eq_ok_iff : readDecimal text = .ok x ↔ IsDecimal text x := by
  constructor
  · intro reads
    unfold readDecimal at reads
    split at reads
    · cases reads
    · obtain ⟨sign, isSign, same⟩ := exists_isSign text
      generalize splitSign text = parts at isSign same reads
      obtain ⟨negative, rest⟩ := parts
      dsimp only at isSign same reads
      rw [same]
      split at reads
      · next spelled =>
          cases reads
          exact .infinity isSign spelled
      · split at reads
        · next spelled =>
            cases reads
            exact .nan isSign spelled
        · split at reads
          · next number =>
              cases reads
              exact .number isSign (readUnsignedDecimal?_eq_some_iff.mp number)
          · cases reads
  · intro isDecimal
    -- Words begin with a letter, in whatever case, so that the sign is split off.
    have word : ∀ {first : Char} {others word : List Char},
        Text.lowerAscii word = first :: others → first ≠ '+' → first ≠ '-' →
        Begins (fun c => c ≠ '+' ∧ c ≠ '-') word := by
      intro first others word spelled notPlus notMinus
      cases word with
      | nil => cases spelled
      | cons c rest =>
          have lower : c.toLower = first := (List.cons.inj spelled).1
          refine ⟨c, rest, rfl, ?_, ?_⟩ <;> rintro rfl
          · exact notPlus lower.symm
          · exact notMinus lower.symm
    have signed : ∀ {sign rest : List Char} {negative : Bool}, IsSign sign negative →
        Begins (fun c => c ≠ '+' ∧ c ≠ '-') rest →
        (sign ++ rest).isEmpty = false ∧ splitSign (sign ++ rest) = (negative, rest) := by
      intro sign rest negative isSign begins
      refine ⟨?_, splitSign_append isSign begins⟩
      obtain ⟨c, others, rfl, -⟩ := begins
      cases isSign <;> rfl
    cases isDecimal with
    | infinity isSign spelled =>
        have begins := spelled.elim (fun short => word short (by decide) (by decide))
          fun long => word long (by decide) (by decide)
        obtain ⟨nonempty, split⟩ := signed isSign begins
        unfold readDecimal
        rw [nonempty, split]
        dsimp only
        rw [if_neg nofun, if_pos spelled]
    | nan isSign spelled =>
        obtain ⟨nonempty, split⟩ := signed isSign (word spelled (by decide) (by decide))
        unfold readDecimal
        rw [nonempty, split]
        dsimp only
        rw [if_neg nofun, if_neg, if_pos spelled]
        rw [spelled]
        decide
    | number isSign isNumber =>
        obtain ⟨c, others, rfl, begins⟩ := isNumber.begins
        have notSign : c ≠ '+' ∧ c ≠ '-' := by
          constructor <;> rintro rfl <;> rcases begins with digit | point <;>
            first | cases digit | cases point
        obtain ⟨nonempty, split⟩ := signed isSign ⟨c, others, rfl, notSign⟩
        have noWord : ∀ {first : Char} {later : List Char}, isDigit first = false →
            first ≠ '.' → Text.lowerAscii (c :: others) ≠ first :: later := by
          intro first later noDigit noPoint spelled
          have same : c.toLower = first := (List.cons.inj spelled).1
          rw [toLower_of_begins begins] at same
          subst same
          rcases begins with digit | point
          · rw [noDigit] at digit
            cases digit
          · exact noPoint point
        unfold readDecimal
        rw [nonempty, split]
        dsimp only
        rw [if_neg nofun, if_neg, if_neg, readUnsignedDecimal?_eq_some_iff.mpr isNumber]
        · exact noWord (by decide) (by decide)
        · rintro (short | long)
          · exact noWord (by decide) (by decide) short
          · exact noWord (by decide) (by decide) long

/-- Reading a decimal fails if there is none. -/
theorem readDecimal_eq_error_iff {fault : DecimalFault} :
    readDecimal text = .error fault ↔
      (∀ x, ¬IsDecimal text x) ∧ fault = if text = [] then .empty else .invalid := by
  cases reads : readDecimal text with
  | ok x => exact ⟨nofun, fun fails => absurd (readDecimal_eq_ok_iff.mp reads) (fails.1 x)⟩
  | error found =>
      have noDecimal : ∀ x, ¬IsDecimal text x := fun x isDecimal => by
        rw [readDecimal_eq_ok_iff.mpr isDecimal] at reads
        cases reads
      have which : found = if text = [] then .empty else .invalid := by
        cases text with
        | nil => cases reads; rfl
        | cons c rest =>
            rw [if_neg nofun]
            unfold readDecimal at reads
            rw [if_neg nofun] at reads
            dsimp only at reads
            split at reads
            · cases reads
            · split at reads
              · cases reads
              · split at reads <;> cases reads
                rfl
      rw [which, Except.error.injEq]
      exact ⟨fun same => ⟨noDecimal, same.symm⟩, fun fails => fails.2.symm⟩

end Decimal

end NodeTelemetry.Literal
