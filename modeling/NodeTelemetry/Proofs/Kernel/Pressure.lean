/-
# The grammar of pressure files

A pressure file is a list of lines, and a line is a kind followed by fields. The grammar
asks of every field that it assigns a value to a name, and of the values of the known names
that they are numbers; of the file it asks for a line of kind `some`. Just the files that
follow it are read. Lines of a kind and fields of a name may be repeated, and the last of
them counts; kinds and names that are not known have no effect. The first fault from the
top, and in its line from the left, is the one that is reported.
-/

import NodeTelemetry.Kernel.Pressure
import NodeTelemetry.Proofs.Folding
import NodeTelemetry.Proofs.Number.Literals

namespace NodeTelemetry.Kernel

/-! ## Fields -/

/-- A field assigns a value to a name, which ends at the first equals sign. -/
def Assigns (field name value : List Char) : Prop :=
  field = name ++ '=' :: value ∧ '=' ∉ name

/-- The names of averages. -/
def averageNames : List (List Char) :=
  ["avg10".toList, "avg60".toList, "avg300".toList]

/-- A field that follows the grammar. -/
def IsField (field : List Char) : Prop :=
  ∃ name value, Assigns field name value ∧
    (name ∈ averageNames → ∃ x, Literal.IsDecimal value x) ∧
    (name = "total".toList → ∃ n, Literal.IsWhole value n ∧ n ≤ Literal.mostUInt64)

/-- What is wrong with a field that does not. -/
inductive IsFieldFault (field : List Char) : FieldFault → Prop where
  | noValue (unassigned : '=' ∉ field) : IsFieldFault field (.noValue (String.ofList field))
  | decimal {name value : List Char} (assigns : Assigns field name value)
      (average : name ∈ averageNames) (isFault : ∀ x, ¬Literal.IsDecimal value x) :
      IsFieldFault field (.decimal (if value = [] then .empty else .invalid))
  | whole {value : List Char} {fault : Literal.WholeFault}
      (assigns : Assigns field "total".toList value)
      (isFault : Literal.IsWholeFault Literal.mostUInt64 value fault) :
      IsFieldFault field (.whole fault)

/-- What a name stands for after some fields. -/
abbrev LastValue {α : Type} (name : String) (Means : List Char → α → Prop) (start : α) :
    List (List Char) → α → Prop :=
  LastSetting (fun field => ∃ value, Assigns field name.toList value)
    (fun field x => ∃ value, Assigns field name.toList value ∧ Means value x) start

/-- What a line stands for after some fields, if it stood for another line before them. -/
structure Becomes (start : PressureLine) (fields : List (List Char)) (line : PressureLine) :
    Prop where
  avg10 : LastValue "avg10" Literal.IsDecimal start.avg10 fields line.avg10
  avg60 : LastValue "avg60" Literal.IsDecimal start.avg60 fields line.avg60
  avg300 : LastValue "avg300" Literal.IsDecimal start.avg300 fields line.avg300
  total : LastValue "total" (fun value n => Literal.IsWhole value n.toNat) start.total fields
    line.total

section Fields

variable {field name value otherName : List Char} {fields : List (List Char)} {fault : FieldFault}
  {start line : PressureLine} {x : Binary64} {n : UInt64}

/-- A field assigns to no more than one name, and no more than one value. -/
theorem Assigns.unique {otherValue : List Char} (assigns : Assigns field name value)
    (others : Assigns field otherName otherValue) : name = otherName ∧ value = otherValue := by
  have first := Text.splitOnce_eq_some_iff.mpr assigns
  rw [Text.splitOnce_eq_some_iff.mpr others] at first
  cases first
  exact ⟨rfl, rfl⟩

theorem Assigns.mem (assigns : Assigns field name value) : '=' ∈ field := by
  rw [assigns.1]
  exact List.mem_append_right _ List.mem_cons_self

theorem assigns_or_not (field : List Char) :
    '=' ∉ field ∨ ∃ name value, Assigns field name value := by
  by_cases marked : '=' ∈ field
  · obtain ⟨name, value, spelled, first⟩ := List.eq_append_cons_of_mem marked
    exact .inr ⟨name, value, spelled, first⟩
  · exact .inl marked

theorem readAverage_eq_ok_iff : readAverage value = .ok x ↔ Literal.IsDecimal value x := by
  rw [← Literal.readDecimal_eq_ok_iff]
  unfold readAverage
  cases Literal.readDecimal value with
  | error fault => exact ⟨nofun, nofun⟩
  | ok y => exact ⟨fun same => congrArg _ (Except.ok.inj same),
      fun same => congrArg _ (Except.ok.inj same)⟩

theorem readAverage_eq_error_iff :
    readAverage value = .error fault ↔ (∀ x, ¬Literal.IsDecimal value x) ∧
      fault = .decimal (if value = [] then .empty else .invalid) := by
  unfold readAverage
  cases fails : Literal.readDecimal value with
  | ok x =>
      exact ⟨nofun, fun none => absurd (Literal.readDecimal_eq_ok_iff.mp fails) (none.1 x)⟩
  | error found =>
      obtain ⟨none, rfl⟩ := Literal.readDecimal_eq_error_iff.mp fails
      exact ⟨fun same => ⟨none, (Except.error.inj same).symm⟩, fun same => congrArg _ same.2.symm⟩

theorem readTotal_eq_ok_iff : readTotal value = .ok n ↔ Literal.IsWhole value n.toNat := by
  have fits : n.toNat ≤ Literal.mostUInt64 := Nat.le_pred_of_lt n.toNat_lt
  have reads := @Literal.readWhole_eq_ok_iff Literal.mostUInt64 n.toNat value
  rw [and_iff_left fits] at reads
  rw [← reads]
  unfold readTotal
  cases found : Literal.readWhole Literal.mostUInt64 value with
  | error fault => exact ⟨nofun, nofun⟩
  | ok m =>
      obtain ⟨-, fitsFound⟩ := Literal.readWhole_eq_ok_iff.mp found
      have small : m < 2 ^ 64 := Nat.lt_of_le_pred (by decide) fitsFound
      change Except.ok (UInt64.ofNat m) = .ok n ↔ _
      rw [Except.ok.injEq, Except.ok.injEq]
      constructor
      · rintro rfl
        exact (UInt64.toNat_ofNat_of_lt small).symm
      · rintro rfl
        exact UInt64.ofNat_toNat

theorem readTotal_eq_error_iff :
    readTotal value = .error fault ↔
      ∃ found, Literal.IsWholeFault Literal.mostUInt64 value found ∧ fault = .whole found := by
  simp only [← Literal.readWhole_eq_error_iff]
  unfold readTotal
  cases Literal.readWhole Literal.mostUInt64 value with
  | error found =>
      refine ⟨fun same => ⟨found, rfl, (Except.error.inj same).symm⟩, ?_⟩
      rintro ⟨other, fails, rfl⟩
      cases fails
      rfl
  | ok n => exact ⟨nofun, fun ⟨_, fails, _⟩ => nomatch fails⟩

theorem readField_of_unassigned (unassigned : '=' ∉ field) :
    readField line field = .error (.noValue (String.ofList field)) := by
  unfold readField
  rw [Text.splitOnce_eq_none_iff.mpr unassigned]

/-- What is done with a field, by the name that it assigns to. -/
theorem readField_cases (assigns : Assigns field name value) :
    (name = "avg10".toList ∧
      readField line field = (readAverage value).map fun x => { line with avg10 := x }) ∨
    (name = "avg60".toList ∧
      readField line field = (readAverage value).map fun x => { line with avg60 := x }) ∨
    (name = "avg300".toList ∧
      readField line field = (readAverage value).map fun x => { line with avg300 := x }) ∨
    (name = "total".toList ∧
      readField line field = (readTotal value).map fun n => { line with total := n }) ∨
    (name ∉ averageNames ∧ name ≠ "total".toList ∧ readField line field = .ok line) := by
  unfold readField
  rw [Text.splitOnce_eq_some_iff.mpr assigns]
  dsimp only
  split
  · next same => exact .inl ⟨same, rfl⟩
  · next notTen =>
      split
      · next same => exact .inr (.inl ⟨same, rfl⟩)
      · next notSixty =>
          split
          · next same => exact .inr (.inr (.inl ⟨same, rfl⟩))
          · next notLong =>
              split
              · next same => exact .inr (.inr (.inr (.inl ⟨same, rfl⟩)))
              · next notTotal =>
                  have unknown : name ∉ averageNames := by
                    simp only [averageNames, List.mem_cons, List.not_mem_nil, or_false, not_or]
                    exact ⟨notTen, notSixty, notLong⟩
                  exact .inr (.inr (.inr (.inr ⟨unknown, notTotal, rfl⟩)))

theorem ne_total (known : name ∈ averageNames) : name ≠ "total".toList := by
  rintro rfl
  exact absurd known (by decide)

/-- What is wrong with a field that assigns is wrong with its value. -/
theorem isFieldFault_iff (assigns : Assigns field name value) :
    IsFieldFault field fault ↔ (name ∈ averageNames ∧ readAverage value = .error fault) ∨
      (name = "total".toList ∧ readTotal value = .error fault) := by
  rw [readAverage_eq_error_iff, readTotal_eq_error_iff]
  constructor
  · intro isFault
    cases isFault with
    | noValue unassigned => exact absurd assigns.mem unassigned
    | decimal others known isFault =>
        obtain ⟨rfl, rfl⟩ := assigns.unique others
        exact .inl ⟨known, isFault, rfl⟩
    | whole others isFault =>
        obtain ⟨rfl, rfl⟩ := assigns.unique others
        exact .inr ⟨rfl, _, isFault, rfl⟩
  · rintro (⟨known, isFault, rfl⟩ | ⟨rfl, found, isFault, rfl⟩)
    · exact .decimal assigns known isFault
    · exact .whole assigns isFault

/-- Whether a field is taken in does not depend on what was taken in before it. -/
theorem readField_eq_error_iff :
    readField line field = .error fault ↔ IsFieldFault field fault := by
  rcases assigns_or_not field with unassigned | ⟨name, value, assigns⟩
  · rw [readField_of_unassigned unassigned]
    refine ⟨fun fails => ?_, fun isFault => ?_⟩
    · cases fails
      exact .noValue unassigned
    · cases isFault with
      | noValue _ => rfl
      | decimal assigns _ _ => exact absurd assigns.mem unassigned
      | whole assigns _ => exact absurd assigns.mem unassigned
  · have average : name ∈ averageNames → (readAverage value = .error fault ↔
        (name ∈ averageNames ∧ readAverage value = .error fault) ∨
          (name = "total".toList ∧ readTotal value = .error fault)) := fun known =>
      ⟨fun fails => .inl ⟨known, fails⟩,
        fun fails => fails.elim And.right fun total => absurd total.1 (ne_total known)⟩
    rw [isFieldFault_iff assigns]
    rcases readField_cases assigns with
      ⟨rfl, reads⟩ | ⟨rfl, reads⟩ | ⟨rfl, reads⟩ | ⟨rfl, reads⟩ | ⟨unknown, notTotal, reads⟩
    · rw [reads, map_eq_error_iff]
      exact average (by decide)
    · rw [reads, map_eq_error_iff]
      exact average (by decide)
    · rw [reads, map_eq_error_iff]
      exact average (by decide)
    · rw [reads, map_eq_error_iff]
      exact ⟨fun fails => .inr ⟨rfl, fails⟩,
        fun fails => fails.elim (fun known => absurd rfl (ne_total known.1)) And.right⟩
    · rw [reads]
      exact ⟨nofun,
        fun fails => fails.elim (fun known => absurd known.1 unknown)
          fun total => absurd total.1 notTotal⟩

/-- A field follows the grammar if nothing is wrong with it. -/
theorem isField_iff : IsField field ↔ ∀ fault, ¬IsFieldFault field fault := by
  constructor
  · rintro ⟨name, value, assigns, decimals, wholes⟩ fault isFault
    rcases (isFieldFault_iff assigns).mp isFault with ⟨known, fails⟩ | ⟨total, fails⟩
    · obtain ⟨x, isDecimal⟩ := decimals known
      rw [readAverage_eq_ok_iff.mpr isDecimal] at fails
      cases fails
    · obtain ⟨found, isFault, -⟩ := readTotal_eq_error_iff.mp fails
      obtain ⟨n, isWhole⟩ := wholes total
      have reads := Literal.readWhole_eq_ok_iff.mpr isWhole
      rw [Literal.readWhole_eq_error_iff.mpr isFault] at reads
      cases reads
  · intro faultless
    rcases assigns_or_not field with unassigned | ⟨name, value, assigns⟩
    · exact absurd (.noValue unassigned) (faultless _)
    · refine ⟨name, value, assigns, fun known => ?_, ?_⟩
      · refine Classical.byContradiction fun none => faultless _ (.decimal assigns known ?_)
        exact not_exists.mp none
      · rintro rfl
        cases reads : Literal.readWhole Literal.mostUInt64 value with
        | ok n => exact ⟨n, Literal.readWhole_eq_ok_iff.mp reads⟩
        | error found =>
            exact absurd (.whole assigns (Literal.readWhole_eq_error_iff.mp reads)) (faultless _)

theorem LastValue.assigned {α : Type} {key : String} {Means : List Char → α → Prop} {start x : α}
    (assigns : Assigns field key.toList value) (means : Means value x) :
    LastValue key Means start [field] x :=
  .single ⟨value, assigns⟩ ⟨value, assigns, means⟩

theorem LastValue.kept {α : Type} {key : String} {Means : List Char → α → Prop} {start : α}
    (assigns : Assigns field name value) (different : name ≠ key.toList) :
    LastValue key Means start [field] start :=
  .skip fun ⟨_, others⟩ => different (assigns.unique others).1

/-- A field sets what its name stands for. -/
theorem becomes_of_readField {next : PressureLine} (reads : readField line field = .ok next) :
    Becomes line [field] next := by
  rcases assigns_or_not field with unassigned | ⟨name, value, assigns⟩
  · rw [readField_of_unassigned unassigned] at reads
    cases reads
  · rcases readField_cases assigns with
      ⟨rfl, same⟩ | ⟨rfl, same⟩ | ⟨rfl, same⟩ | ⟨rfl, same⟩ | ⟨unknown, notTotal, same⟩ <;>
      rw [same] at reads
    · obtain ⟨x, read, rfl⟩ := map_eq_ok_iff.mp reads
      exact ⟨.assigned assigns (readAverage_eq_ok_iff.mp read), .kept assigns (by decide),
        .kept assigns (by decide), .kept assigns (by decide)⟩
    · obtain ⟨x, read, rfl⟩ := map_eq_ok_iff.mp reads
      exact ⟨.kept assigns (by decide), .assigned assigns (readAverage_eq_ok_iff.mp read),
        .kept assigns (by decide), .kept assigns (by decide)⟩
    · obtain ⟨x, read, rfl⟩ := map_eq_ok_iff.mp reads
      exact ⟨.kept assigns (by decide), .kept assigns (by decide),
        .assigned assigns (readAverage_eq_ok_iff.mp read), .kept assigns (by decide)⟩
    · obtain ⟨n, read, rfl⟩ := map_eq_ok_iff.mp reads
      exact ⟨.kept assigns (by decide), .kept assigns (by decide),
        .kept assigns (by decide), .assigned assigns (readTotal_eq_ok_iff.mp read)⟩
    · cases reads
      have differs : ∀ {key : List Char}, key ∈ averageNames → name ≠ key := by
        rintro key known rfl
        exact unknown known
      exact ⟨.kept assigns (differs (by decide)), .kept assigns (differs (by decide)),
        .kept assigns (differs (by decide)), .kept assigns notTotal⟩

theorem readFields_eq : readFields line fields = fields.foldlM readField line := by
  induction fields generalizing line with
  | nil => rfl
  | cons field rest ih =>
      rw [readFields, List.foldlM_cons]
      cases readField line field with
      | error fault => rfl
      | ok next => exact ih

theorem readFields_eq_error_iff :
    readFields line fields = .error fault ↔ FirstFault IsField IsFieldFault fields fault := by
  rw [readFields_eq]
  exact foldlM_eq_error_iff readField_eq_error_iff isField_iff

theorem readFields_eq_ok_iff :
    (∃ final, readFields line fields = .ok final) ↔ ∀ field ∈ fields, IsField field := by
  simp only [readFields_eq]
  exact foldlM_eq_ok_iff readField_eq_error_iff isField_iff

/-- Fields set what their names stand for, and the last one of a name counts. -/
theorem becomes_of_readFields (reads : readFields start fields = .ok line) :
    Becomes start fields line := by
  rw [readFields_eq] at reads
  exact ⟨lastSetting_of_foldlM (fun read => (becomes_of_readField read).avg10) reads,
    lastSetting_of_foldlM (fun read => (becomes_of_readField read).avg60) reads,
    lastSetting_of_foldlM (fun read => (becomes_of_readField read).avg300) reads,
    lastSetting_of_foldlM (fun read => (becomes_of_readField read).total) reads⟩

end Fields

/-! ## Lines -/

/-- The fields of a line follow its kind. -/
def fieldsOf (line : List Char) : List (List Char) := (Text.words line).tail

/-- A line of a kind. -/
def IsOfKind (kind : String) (line : List Char) : Prop :=
  (Text.words line).head? = some kind.toList

/-- A line that follows the grammar, whatever its kind. -/
def IsLine (line : List Char) : Prop := ∀ field ∈ fieldsOf line, IsField field

/-- What is wrong with a line that does not. -/
inductive IsLineFault (line : List Char) : PressureFault → Prop where
  | field {fault : FieldFault} (isFirst : FirstFault IsField IsFieldFault (fieldsOf line) fault) :
      IsLineFault line (.field (String.ofList line) fault)

/-- What is known of a kind after some lines. -/
abbrev LastLine (kind : String) (start : Option PressureLine) :
    List (List Char) → Option PressureLine → Prop :=
  LastSetting (IsOfKind kind)
    (fun line read => ∃ found, Becomes {} (fieldsOf line) found ∧ read = some found) start

section Lines

variable {line kind : List Char} {fields lines : List (List Char)} {fault : PressureFault}
  {found next : PressureLines} {read start : Option PressureLine} {name : String}

theorem LastLine.eq_none_iff (last : LastLine name none lines read) :
    read = none ↔ ∀ line ∈ lines, ¬IsOfKind name line := by
  cases last with
  | unset silent => exact ⟨fun _ => silent, fun _ => rfl⟩
  | set ofKind becomes _ =>
      obtain ⟨reading, -, rfl⟩ := becomes
      refine ⟨nofun, fun silent => absurd ofKind (silent _ ?_)⟩
      exact List.mem_append_right _ List.mem_cons_self

/-- Lines are taken in one after another. -/
theorem readPressureLines_eq :
    readPressureLines found lines =
      lines.foldlM (fun found line => readPressureLines found [line]) found := by
  induction lines generalizing found with
  | nil => rfl
  | cons line rest ih =>
      rw [List.foldlM_cons, readPressureLines, readPressureLines]
      split
      · exact ih
      · split
        · rfl
        · exact ih

/-- What is done with a line. -/
theorem readLine_cases (found : PressureLines) (line : List Char) :
    (Text.words line = [] ∧ readPressureLines found [line] = .ok found) ∨
    (∃ fault, readFields {} (fieldsOf line) = .error fault ∧
      readPressureLines found [line] = .error (.field (String.ofList line) fault)) ∨
    (∃ kind reading, (Text.words line).head? = some kind ∧
      readFields {} (fieldsOf line) = .ok reading ∧
      readPressureLines found [line] = .ok (found.put kind reading)) := by
  rw [readPressureLines]
  unfold fieldsOf
  cases Text.words line with
  | nil => exact .inl ⟨rfl, rfl⟩
  | cons kind fields =>
      dsimp only [List.tail_cons, List.head?_cons]
      cases readFields {} fields with
      | error fault => exact .inr (.inl ⟨fault, rfl, rfl⟩)
      | ok reading => exact .inr (.inr ⟨kind, reading, rfl, rfl, rfl⟩)

/-- Whether a line is taken in does not depend on what was taken in before it. -/
theorem readLine_eq_error_iff :
    readPressureLines found [line] = .error fault ↔ IsLineFault line fault := by
  have faulty : IsLineFault line fault ↔ ∃ found, readFields {} (fieldsOf line) = .error found ∧
      fault = .field (String.ofList line) found := by
    simp only [readFields_eq_error_iff]
    refine ⟨fun isFault => ?_, ?_⟩
    · obtain ⟨isFirst⟩ := isFault
      exact ⟨_, isFirst, rfl⟩
    · rintro ⟨found, isFirst, rfl⟩
      exact .field isFirst
  rw [faulty]
  rcases readLine_cases found line with
    ⟨empty, reads⟩ | ⟨first, fails, reads⟩ | ⟨kind, reading, -, ends, reads⟩
  · have none : fieldsOf line = [] := by rw [fieldsOf, empty]; rfl
    rw [reads, none]
    exact ⟨nofun, fun ⟨_, fails, _⟩ => nomatch fails⟩
  · rw [reads, fails]
    simp [eq_comm]
  · rw [reads, ends]
    exact ⟨nofun, fun ⟨_, fails, _⟩ => nomatch fails⟩

theorem isLine_iff : IsLine line ↔ ∀ fault, ¬IsLineFault line fault := by
  unfold IsLine
  rw [forall_fine_iff isField_iff]
  refine ⟨fun faultless fault isFault => ?_, fun faultless fault isFirst => ?_⟩
  · obtain ⟨isFirst⟩ := isFault
    exact faultless _ isFirst
  · exact faultless _ (.field isFirst)

/-- A line sets what is known of its kind. -/
theorem lastLine_of_readLine (reads : readPressureLines found [line] = .ok next) :
    LastLine "some" found.someLine [line] next.someLine ∧
      LastLine "full" found.fullLine [line] next.fullLine := by
  rcases readLine_cases found line with
    ⟨empty, same⟩ | ⟨first, -, same⟩ | ⟨kind, reading, isKind, ends, same⟩ <;>
    rw [same] at reads <;> cases reads
  · have none : ∀ {name}, ¬IsOfKind name line := fun ofKind => by
      rw [IsOfKind, empty] at ofKind
      cases ofKind
    exact ⟨.skip none, .skip none⟩
  · have ofKind : ∀ {name : String}, IsOfKind name line ↔ kind = name.toList := by
      intro name
      unfold IsOfKind
      rw [isKind, Option.some.injEq]
    have becomes := becomes_of_readFields ends
    unfold PressureLines.put
    split
    · next isSome =>
        have notFull : ¬IsOfKind "full" line := fun isFull => by
          rw [ofKind.mp isFull] at isSome
          exact absurd isSome (by decide)
        exact ⟨.single (ofKind.mpr isSome) ⟨reading, becomes, rfl⟩, .skip notFull⟩
    · next notSome =>
        split
        · next isFull =>
            exact ⟨.skip fun isSome => notSome (ofKind.mp isSome),
              .single (ofKind.mpr isFull) ⟨reading, becomes, rfl⟩⟩
        · next notFull =>
            exact ⟨.skip fun isSome => notSome (ofKind.mp isSome),
              .skip fun isFull => notFull (ofKind.mp isFull)⟩

theorem readPressureLines_eq_error_iff :
    readPressureLines found lines = .error fault ↔ FirstFault IsLine IsLineFault lines fault := by
  rw [readPressureLines_eq]
  exact foldlM_eq_error_iff readLine_eq_error_iff isLine_iff

theorem readPressureLines_eq_ok_iff :
    (∃ final, readPressureLines found lines = .ok final) ↔ ∀ line ∈ lines, IsLine line := by
  rw [readPressureLines_eq]
  exact foldlM_eq_ok_iff readLine_eq_error_iff isLine_iff

/-- Lines set what is known of their kinds, and the last one of a kind counts. -/
theorem lastLine_of_readPressureLines (reads : readPressureLines found lines = .ok next) :
    LastLine "some" found.someLine lines next.someLine ∧
      LastLine "full" found.fullLine lines next.fullLine := by
  rw [readPressureLines_eq] at reads
  exact ⟨lastSetting_of_foldlM (fun read => (lastLine_of_readLine read).1) reads,
    lastSetting_of_foldlM (fun read => (lastLine_of_readLine read).2) reads⟩

end Lines

/-! ## What has no effect -/

/-- A field of a known name. -/
def counts (field : List Char) : Bool :=
  ("total".toList :: averageNames).any fun name => (name ++ ['=']).isPrefixOf field

/-- What counts in a line, if it is of a known kind: the kind, and the fields of known names. -/
def content? (line : List Char) : Option (List Char × List (List Char)) :=
  match (Text.words line).head? with
  | none => none
  | some kind =>
    if kind = "some".toList ∨ kind = "full".toList then
      some (kind, (fieldsOf line).filter counts)
    else none

/-- Take in what counts in a line. -/
def PressureLines.keep (found : PressureLines) (content : List Char × List (List Char)) :
    PressureLines :=
  found.put content.1 ((readFields {} content.2).toOption.getD {})

section Content

variable {line : PressureLine} {found : PressureLines} {fields lines : List (List Char)}

theorem readFields_filter_counts (fine : ∀ field ∈ fields, IsField field) :
    readFields line (fields.filter counts) = readFields line fields := by
  induction fields generalizing line with
  | nil => rfl
  | cons field rest ih =>
      obtain ⟨isField, others⟩ := List.forall_mem_cons.mp fine
      rw [List.filter_cons]
      split
      · rw [readFields, readFields]
        split
        · rfl
        · exact ih others
      · next countsNot =>
          obtain ⟨name, value, assigns, -⟩ := isField
          have unknown : name ∉ "total".toList :: averageNames := fun known => by
            refine countsNot (List.any_eq_true.mpr ⟨name, known, List.isPrefixOf_iff_prefix.mpr ?_⟩)
            exact ⟨value, by rw [assigns.1, List.append_assoc]; rfl⟩
          have ignored : readField line field = .ok line := by
            rcases readField_cases assigns with
              ⟨rfl, _⟩ | ⟨rfl, _⟩ | ⟨rfl, _⟩ | ⟨rfl, _⟩ | ⟨_, _, reads⟩
            all_goals first | exact reads | exact absurd (by decide) unknown
          rw [readFields, ignored]
          exact ih others

/-- Of lines that follow the grammar, only what counts is taken in. -/
theorem readPressureLines_eq_keep (fine : ∀ line ∈ lines, IsLine line) :
    readPressureLines found lines =
      .ok ((lines.filterMap content?).foldl PressureLines.keep found) := by
  induction lines generalizing found with
  | nil => rfl
  | cons line rest ih =>
      obtain ⟨isLine, others⟩ := List.forall_mem_cons.mp fine
      obtain ⟨read, reads⟩ := readFields_eq_ok_iff.mpr isLine
      rw [readPressureLines_eq, List.foldlM_cons]
      rcases readLine_cases found line with
        ⟨empty, taken⟩ | ⟨fault, fails, -⟩ | ⟨kind, reading, isKind, ends, taken⟩
      · have silent : content? line = none := by rw [content?, empty]; rfl
        rw [taken, List.filterMap_cons_none silent]
        exact readPressureLines_eq.symm.trans (ih others)
      · rw [reads] at fails
        cases fails
      · rw [taken]
        refine (readPressureLines_eq.symm.trans (ih others)).trans (congrArg Except.ok ?_)
        by_cases known : kind = "some".toList ∨ kind = "full".toList
        · have content : content? line = some (kind, (fieldsOf line).filter counts) := by
            rw [content?, isKind]
            exact if_pos known
          rw [List.filterMap_cons_some content, List.foldl_cons, PressureLines.keep,
            readFields_filter_counts isLine, ends]
          rfl
        · have silent : content? line = none := by
            rw [content?, isKind]
            exact if_neg known
          have same : found.put kind reading = found := by
            rw [PressureLines.put, if_neg fun isSome => known (.inl isSome),
              if_neg fun isFull => known (.inr isFull)]
          rw [List.filterMap_cons_none silent, same]

end Content

/-! ## Files -/

/-- What becomes of a file, by its grammar: it has a fault, or it lacks a line, or it is read
as what its last lines of the kinds say. -/
inductive Outcome (text : List Char) : Except PressureFault PressureReading → Prop where
  | faulty {fault : PressureFault}
      (isFirst : FirstFault IsLine IsLineFault (Text.lines text) fault) :
      Outcome text (.error fault)
  | missing (fine : ∀ line ∈ Text.lines text, IsLine line)
      (silent : ¬∃ line ∈ Text.lines text, IsOfKind "some" line) :
      Outcome text (.error .noSomeLine)
  | read {reading : PressureReading} (fine : ∀ line ∈ Text.lines text, IsLine line)
      (present : ∃ line ∈ Text.lines text, IsOfKind "some" line)
      (someLine : LastLine "some" none (Text.lines text) (some reading.someLine))
      (fullLine : LastLine "full" none (Text.lines text) reading.fullLine) :
      Outcome text (.ok reading)

theorem readPressure_outcome (text : List Char) : Outcome text (readPressure text) := by
  unfold readPressure
  cases reads : readPressureLines {} (Text.lines text) with
  | error fault => exact .faulty (readPressureLines_eq_error_iff.mp reads)
  | ok found =>
      have fine := readPressureLines_eq_ok_iff.mp ⟨found, reads⟩
      obtain ⟨someLine, fullLine⟩ := lastLine_of_readPressureLines reads
      have silent := someLine.eq_none_iff
      dsimp only
      split
      · next missing =>
          exact .missing fine fun ⟨line, listed, isSome⟩ => silent.mp missing line listed isSome
      · next line present =>
          rw [present] at someLine silent
          refine .read fine (Classical.byContradiction fun none => ?_) someLine fullLine
          exact nomatch silent.mpr fun line listed isSome => none ⟨line, listed, isSome⟩

/-- A pressure file is read by its grammar. -/
structure ReadByGrammar (text : List Char) : Prop where
  /-- Just the files that follow the grammar are read. -/
  accepted : (∃ reading, readPressure text = .ok reading) ↔
    (∀ line ∈ Text.lines text, IsLine line) ∧ ∃ line ∈ Text.lines text, IsOfKind "some" line
  /-- They are read as what their last lines of the kinds say. -/
  read : ∀ reading, readPressure text = .ok reading →
    LastLine "some" none (Text.lines text) (some reading.someLine) ∧
      LastLine "full" none (Text.lines text) reading.fullLine
  /-- Nothing else in them has any effect. -/
  unaffected : ∀ other, (∀ line ∈ Text.lines text, IsLine line) →
    (∀ line ∈ Text.lines other, IsLine line) →
    (Text.lines other).filterMap content? = (Text.lines text).filterMap content? →
    readPressure other = readPressure text
  /-- Of the other files, the first fault is reported. -/
  faulty : ∀ line fault, readPressure text = .error (.field line fault) ↔
    FirstFault IsLine IsLineFault (Text.lines text) (.field line fault)
  /-- Without any fault in a line, what is reported is that a line is missing. -/
  missing : readPressure text = .error .noSomeLine ↔
    (∀ line ∈ Text.lines text, IsLine line) ∧ ¬∃ line ∈ Text.lines text, IsOfKind "some" line

/-- Every text is read by the grammar of pressure files. -/
theorem read_by_grammar (text : List Char) : ReadByGrammar text := by
  have outcome := readPressure_outcome text
  have faultless : (∀ line ∈ Text.lines text, IsLine line) →
      ∀ fault, ¬FirstFault IsLine IsLineFault (Text.lines text) fault :=
    (forall_fine_iff isLine_iff).mp
  refine ⟨⟨?_, ?_⟩, ?_, ?_, fun line fault => ⟨?_, ?_⟩, ?_, ?_⟩
  · rintro ⟨reading, reads⟩
    rw [reads] at outcome
    cases outcome with
    | read fine present _ _ => exact ⟨fine, present⟩
  · rintro ⟨fine, present⟩
    generalize readPressure text = result at outcome
    cases outcome with
    | faulty isFirst => exact absurd isFirst (faultless fine _)
    | missing _ silent => exact absurd present silent
    | read _ _ _ _ => exact ⟨_, rfl⟩
  · intro reading reads
    rw [reads] at outcome
    cases outcome with
    | read _ _ someLine fullLine => exact ⟨someLine, fullLine⟩
  · intro other fine fineOther same
    unfold readPressure
    rw [readPressureLines_eq_keep fine, readPressureLines_eq_keep fineOther, same]
  · intro fails
    rw [fails] at outcome
    cases outcome with
    | faulty isFirst => exact isFirst
  · intro isFirst
    unfold readPressure
    rw [readPressureLines_eq_error_iff.mpr isFirst]
  · intro fails
    rw [fails] at outcome
    cases outcome with
    | faulty isFirst =>
        obtain ⟨line, ⟨⟩⟩ := isFirst.exists_fails
    | missing fine silent => exact ⟨fine, silent⟩
  · rintro ⟨fine, silent⟩
    generalize readPressure text = result at outcome
    cases outcome with
    | faulty isFirst => exact absurd isFirst (faultless fine _)
    | missing _ _ => rfl
    | read _ present _ _ => exact absurd present silent

example : readPressure "some total=7\nother x=\n\nsome total=8 total=+9\r\n".toList =
    .ok { someLine := { total := 9 }, fullLine := none } := by
  rfl

example : readPressure "some total=7\nother x= total=-1 avg10\nsome avg10\n".toList =
    .error (.field "other x= total=-1 avg10" (.whole .invalidDigit)) := by
  rfl

end NodeTelemetry.Kernel
