/-
# Reading what was written: messages

What is on the wire for a message is a sequence of fields. Each of them takes a reader
from one record to the next, whatever follows it, and the whole sequence takes it from
the record of defaults to the record that was written. Only a negative zero of a plain
double is not brought back: it is left out, and what is left out is read as a zero.

The argument needs that the numbers of the fields are distinct and are numbers that
fields may have, that messages nest no deeper than the reader goes, and that the message
is short enough for its lengths to be written.
-/

import NodeTelemetry.Protobuf.Schema
import NodeTelemetry.Proofs.Protobuf.Scalar

namespace NodeTelemetry.Protobuf

/-! ## Sequences of fields -/

section Written

variable {α β : Type}

/-- The bytes are fields with numbers among `numbers`, and they take a reader from one
record to another. -/
inductive Written (numbers : List Nat)
    (mergeField : Nat → Wire → List UInt8 → α → Option (α × List UInt8)) :
    List UInt8 → α → α → Prop where
  | nil (record : α) : Written numbers mergeField [] record record
  | cons {number : Nat} {wire : Wire} {payload more : List UInt8} {record merged final : α}
      (listed : number ∈ numbers) (valid : IsFieldNumber number)
      (merges : ∀ rest, mergeField number wire (payload ++ rest) record = some (merged, rest))
      (others : Written numbers mergeField more merged final) :
      Written numbers mergeField (writeKey number wire ++ (payload ++ more)) record final

variable {numbers : List Nat}
variable {mergeField : Nat → Wire → List UInt8 → α → Option (α × List UInt8)}

theorem Written.single {number : Nat} {wire : Wire} {payload : List UInt8} {record merged : α}
    (listed : number ∈ numbers) (valid : IsFieldNumber number)
    (merges : ∀ rest, mergeField number wire (payload ++ rest) record = some (merged, rest)) :
    Written numbers mergeField (writeKey number wire ++ payload) record merged := by
  have written := Written.cons listed valid merges (.nil merged)
  rwa [List.append_nil] at written

theorem Written.append {first second : List UInt8} {record middle final : α}
    (one : Written numbers mergeField first record middle)
    (two : Written numbers mergeField second middle final) :
    Written numbers mergeField (first ++ second) record final := by
  induction one with
  | nil => exact two
  | cons listed valid merges _ ih =>
      rw [List.append_assoc, List.append_assoc]
      exact .cons listed valid merges (ih two)

/-- One field after the other, each adding its value. -/
theorem Written.flatMap {γ : Type} {number : Nat} {wire : Wire}
    (mergeField : Nat → Wire → List UInt8 → List α → Option (List α × List UInt8))
    (payload : γ → List UInt8) (read : γ → α) {values : List γ}
    (listed : number ∈ numbers) (valid : IsFieldNumber number)
    (merges : ∀ value ∈ values, ∀ before rest,
      mergeField number wire (payload value ++ rest) before =
        some (before ++ [read value], rest)) (before : List α) :
    Written numbers mergeField
      (values.flatMap fun value => writeKey number wire ++ payload value) before
      (before ++ values.map read) := by
  induction values generalizing before with
  | nil =>
      rw [List.map_nil, List.append_nil]
      exact .nil before
  | cons value values ih =>
      rw [List.flatMap_cons, List.map_cons, List.append_cons]
      have head := Written.single listed valid (merges value List.mem_cons_self before)
      exact head.append (ih (fun other member => merges other (List.mem_cons_of_mem _ member)) _)

/-- A reader of a larger record reads the fields of a part of it as a reader of the part
does. -/
theorem Written.within {within : List Nat} (place : α → β)
    {mergeWithin : Nat → Wire → List UInt8 → β → Option (β × List UInt8)}
    {bytes : List UInt8} {record final : α}
    (written : Written numbers mergeField bytes record final)
    (listed : ∀ number ∈ numbers, number ∈ within)
    (places : ∀ number ∈ numbers, ∀ {wire bytes rest record merged},
      mergeField number wire bytes record = some (merged, rest) →
        mergeWithin number wire bytes (place record) = some (place merged, rest)) :
    Written within mergeWithin bytes (place record) (place final) := by
  induction written with
  | nil => exact .nil _
  | cons member valid merges _ ih =>
      exact .cons (listed _ member) valid (fun rest => places _ member (merges rest)) ih

theorem mergeFields_succ {bytes : List UInt8} (more : bytes ≠ []) (fuel : Nat) (record : α) :
    mergeFields mergeField (fuel + 1) bytes record = (do
      let (number, wire, rest) ← readKey bytes
      let (merged, after) ← mergeField number wire rest record
      mergeFields mergeField fuel after merged) := by
  cases bytes with
  | nil => exact absurd rfl more
  | cons => rfl

/-- A reader that goes on to the end of the bytes arrives at the final record. -/
theorem Written.mergeFields {bytes : List UInt8} {record final : α}
    (written : Written numbers mergeField bytes record final) {fuel : Nat}
    (enough : bytes.length ≤ fuel) :
    mergeFields mergeField fuel bytes record = some final := by
  induction written generalizing fuel with
  | nil => cases fuel <;> rfl
  | @cons number wire payload more record merged final listed valid merges _ ih =>
      have key := writeKey_ne_nil number wire
      have positive := List.length_pos_iff.mpr key
      rw [List.length_append, List.length_append] at enough
      obtain ⟨fuel, rfl⟩ : ∃ less, fuel = less + 1 := ⟨fuel - 1, by omega⟩
      rw [mergeFields_succ (List.append_ne_nil_of_left_ne_nil key _)]
      simp only [readKey_writeKey valid, Option.bind_eq_bind, Option.bind_some, merges more]
      exact ih (by omega)

/-- An embedded message is read from its own bytes only. -/
theorem Written.mergeEmbedded {bytes : List UInt8} {record final : α}
    (written : Written numbers mergeField bytes record final) (fits : bytes.length < wireBound)
    (rest : List UInt8) :
    mergeEmbedded mergeField (writeDelimited bytes ++ rest) record = some (final, rest) := by
  unfold Protobuf.mergeEmbedded
  simp only [readDelimited_writeDelimited fits, Option.bind_eq_bind, Option.bind_some,
    written.mergeFields (Nat.le_refl _), Option.pure_def]

end Written

/-! ## What is brought back -/

mutual

/-- The value that is read where `value` was written. -/
def Field.canonical : (field : Field) → field.Value → field.Value
  | .plain scalar, value => if scalar.isDefault value then scalar.default else value
  | .optional _, value => value
  | .texts, values => values
  | .one schema, value => Option.map schema.canonical value
  | .many schema, values => List.map schema.canonical values

/-- The message that is read where `record` was written. -/
def Schema.canonical : (schema : Schema) → schema.Record → schema.Record
  | .done, _ => ()
  | .field _ _ kind rest, record => (kind.canonical record.1, rest.canonical record.2)

end

mutual

/-- Has no field of the message, or of those in it, a value that is not brought back? -/
def Field.exact : Field → Bool
  | .plain scalar => scalar != .double
  | .optional _ => true
  | .texts => true
  | .one schema => schema.exact
  | .many schema => schema.exact

/-- Is every message of the schema brought back as it was? -/
def Schema.exact : Schema → Bool
  | .done => true
  | .field _ _ kind rest => kind.exact && rest.exact

end

theorem Scalar.eq_default_of_isDefault {scalar : Scalar} (other : scalar ≠ .double)
    {value : scalar.Value} (isDefault : scalar.isDefault value = true) :
    scalar.default = value := by
  cases scalar with
  | double => exact absurd rfl other
  | _ => exact (eq_of_beq isDefault).symm

mutual

theorem Field.canonical_of_exact {field : Field} (exact : field.exact = true) :
    field.canonical = id := by
  funext value
  cases field with
  | plain scalar =>
      change (if scalar.isDefault value then scalar.default else value) = value
      split
      · next isDefault =>
          exact Scalar.eq_default_of_isDefault (bne_iff_ne.mp exact) isDefault
      · rfl
  | optional scalar => rfl
  | texts => rfl
  | one schema =>
      change Option.map schema.canonical value = value
      rw [schema.canonical_of_exact exact]
      exact Option.map_id_apply
  | many schema =>
      change List.map schema.canonical value = value
      rw [schema.canonical_of_exact exact]
      exact List.map_id _

/-- Without plain doubles every message is brought back as it was. -/
theorem Schema.canonical_of_exact {schema : Schema} (exact : schema.exact = true) :
    schema.canonical = id := by
  funext record
  cases schema with
  | done => rfl
  | field number name kind rest =>
      obtain ⟨first, others⟩ := Bool.and_eq_true_iff.mp exact
      change (kind.canonical record.1, rest.canonical record.2) = record
      rw [kind.canonical_of_exact first, rest.canonical_of_exact others]
      rfl

end

/-! ## Messages -/

mutual

/-- How deep messages nest in a field. -/
def Field.depth : Field → Nat
  | .plain _ => 0
  | .optional _ => 0
  | .texts => 0
  | .one schema => schema.depth + 1
  | .many schema => schema.depth + 1

/-- How deep messages nest in a message. -/
def Schema.depth : Schema → Nat
  | .done => 0
  | .field _ _ kind rest => max kind.depth rest.depth

end

mutual

def Field.wellNumbered : Field → Bool
  | .plain _ => true
  | .optional _ => true
  | .texts => true
  | .one schema => schema.wellNumbered
  | .many schema => schema.wellNumbered

/-- Are the numbers of the fields distinct ones that fields may have, in the messages of
the fields too? -/
def Schema.wellNumbered : Schema → Bool
  | .done => true
  | .field number _ kind rest =>
    decide (IsFieldNumber number) && !rest.numbers.contains number && kind.wellNumbered &&
      rest.wellNumbered

end

/-- What well-numbered fields are, one after the other. -/
theorem Schema.wellNumbered_field {number : Nat} {name : String} {kind : Field} {rest : Schema}
    (wellNumbered : (Schema.field number name kind rest).wellNumbered = true) :
    IsFieldNumber number ∧ number ∉ rest.numbers ∧ kind.wellNumbered = true ∧
      rest.wellNumbered = true := by
  simpa [Schema.wellNumbered, and_assoc] using wellNumbered

section Merge

variable {budget : Nat} {bytes rest : List UInt8}

theorem Field.merge_plain {scalar : Scalar} {value : scalar.Value}
    (reads : scalar.read bytes = some (value, rest)) (before : scalar.Value) :
    (Field.plain scalar).merge budget scalar.wire bytes before = some (value, rest) := by
  rw [Field.merge, if_pos rfl, reads]

theorem Field.merge_optional {scalar : Scalar} {value : scalar.Value}
    (reads : scalar.read bytes = some (value, rest)) (before : Option scalar.Value) :
    (Field.optional scalar).merge budget scalar.wire bytes before = some (some value, rest) := by
  rw [Field.merge, if_pos rfl, reads]
  rfl

theorem Field.merge_texts {text : String} (reads : Scalar.read .text bytes = some (text, rest))
    (before : List String) :
    Field.texts.merge budget .delimited bytes before = some (before ++ [text], rest) := by
  rw [Field.merge, if_pos rfl, reads]
  rfl

theorem Field.merge_one {schema : Schema} {before : Option schema.Record}
    {merged : schema.Record}
    (merges : mergeEmbedded (schema.mergeField budget) bytes (before.getD schema.empty) =
      some (merged, rest)) :
    (Field.one schema).merge (budget + 1) .delimited bytes before = some (some merged, rest) := by
  rw [Field.merge, if_pos rfl, merges]
  rfl

theorem Field.merge_many {schema : Schema} {merged : schema.Record}
    (merges : mergeEmbedded (schema.mergeField budget) bytes schema.empty = some (merged, rest))
    (before : List schema.Record) :
    (Field.many schema).merge (budget + 1) .delimited bytes before =
      some (before ++ [merged], rest) := by
  rw [Field.merge, if_pos rfl, merges]
  rfl

variable {number : Nat} {name : String} {kind : Field} {others : Schema}

theorem Schema.mergeField_own {wire : Wire} {value merged : kind.Value}
    (merges : kind.merge budget wire bytes value = some (merged, rest)) (record : others.Record) :
    (Schema.field number name kind others).mergeField budget number wire bytes (value, record) =
      some ((merged, record), rest) := by
  rw [Schema.mergeField, if_pos rfl, merges]
  rfl

theorem Schema.mergeField_other {other : Nat} (foreign : number ≠ other) {wire : Wire}
    {record merged : others.Record}
    (merges : others.mergeField budget other wire bytes record = some (merged, rest))
    (value : kind.Value) :
    (Schema.field number name kind others).mergeField budget other wire bytes (value, record) =
      some ((value, merged), rest) := by
  rw [Schema.mergeField, if_neg foreign, merges]
  rfl

end Merge

theorem length_payload_le {β : Type} (number : Nat) (wire : Wire) (payload : β → List UInt8)
    {values : List β} {value : β} (member : value ∈ values) :
    (payload value).length ≤
      (values.flatMap fun value => writeKey number wire ++ payload value).length := by
  obtain ⟨before, after, rfl⟩ := List.append_of_mem member
  simp only [List.flatMap_append, List.flatMap_cons, List.length_append]
  omega

mutual

/-- What is written for a field takes a reader from no value to the value to be brought
back. -/
theorem Field.written_write {number : Nat} (valid : IsFieldNumber number) (field : Field)
    {budget : Nat} (deep : field.depth ≤ budget) (wellNumbered : field.wellNumbered = true)
    (value : field.Value) (fits : (Field.write number field value).length < wireBound) :
    Written [number] (fun _ => field.merge budget) (Field.write number field value) field.empty
      (field.canonical value) := by
  have listed : number ∈ [number] := List.mem_cons_self
  cases field with
  | plain scalar =>
      change Written _ _ (if scalar.isDefault value then [] else _) scalar.default
        (if scalar.isDefault value then scalar.default else value)
      change (if scalar.isDefault value then [] else
        writeKey number scalar.wire ++ scalar.write value).length < wireBound at fits
      split at fits
      · next isDefault =>
          rw [if_pos isDefault, if_pos isDefault]
          exact .nil _
      · next other =>
          rw [if_neg other, if_neg other]
          rw [List.length_append] at fits
          refine .single listed valid fun rest => ?_
          exact Field.merge_plain (scalar.read_write value (by omega) rest) _
  | optional scalar =>
      cases value with
      | none => exact .nil _
      | some present =>
          change (writeKey number scalar.wire ++ scalar.write present).length < wireBound at fits
          rw [List.length_append] at fits
          refine .single listed valid fun rest => ?_
          exact Field.merge_optional (scalar.read_write present (by omega) rest) _
  | texts =>
      have merges : ∀ text ∈ value, ∀ before rest,
          Field.texts.merge budget .delimited (Scalar.write .text text ++ rest) before =
            some (before ++ [id text], rest) := by
        intro text member before rest
        have within := length_payload_le number .delimited (Scalar.write .text) member
        have short := Nat.lt_of_le_of_lt within fits
        exact Field.merge_texts (Scalar.read_write .text text short rest) before
      have written := Written.flatMap (fun _ => Field.texts.merge budget) (Scalar.write .text) id
        listed valid merges []
      rwa [List.map_id] at written
  | one schema =>
      obtain _ | budget := budget
      · exact absurd deep (Nat.not_succ_le_zero _)
      cases value with
      | none => exact .nil _
      | some present =>
          change (writeKey number .delimited ++ writeDelimited (schema.write present)).length <
            wireBound at fits
          rw [List.length_append] at fits
          have short : (schema.write present).length < wireBound := by
            have shorter := length_le_writeDelimited (schema.write present)
            omega
          have written := schema.written_write (Nat.le_of_succ_le_succ deep) wellNumbered present
            short
          exact .single listed valid fun rest => Field.merge_one (written.mergeEmbedded short rest)
  | many schema =>
      obtain _ | budget := budget
      · exact absurd deep (Nat.not_succ_le_zero _)
      have merges : ∀ present ∈ value, ∀ before rest,
          (Field.many schema).merge (budget + 1) .delimited
            (writeDelimited (schema.write present) ++ rest) before =
              some (before ++ [schema.canonical present], rest) := by
        intro present member before rest
        have within := length_payload_le number .delimited
          (fun present => writeDelimited (schema.write present)) member
        have short : (schema.write present).length < wireBound :=
          Nat.lt_of_le_of_lt (Nat.le_trans (length_le_writeDelimited _) within) fits
        have written := schema.written_write (Nat.le_of_succ_le_succ deep) wellNumbered present
          short
        exact Field.merge_many (written.mergeEmbedded short rest) before
      exact Written.flatMap (fun _ => (Field.many schema).merge (budget + 1))
        (fun present => writeDelimited (schema.write present)) schema.canonical listed valid
        merges []

/-- What is written for a message takes a reader from the defaults to the message to be
brought back. -/
theorem Schema.written_write (schema : Schema) {budget : Nat} (deep : schema.depth ≤ budget)
    (wellNumbered : schema.wellNumbered = true) (record : schema.Record)
    (fits : (schema.write record).length < wireBound) :
    Written schema.numbers (schema.mergeField budget) (schema.write record) schema.empty
      (schema.canonical record) := by
  cases schema with
  | done => exact .nil _
  | field number name kind rest =>
      obtain ⟨valid, new, kindNumbered, restNumbered⟩ := Schema.wellNumbered_field wellNumbered
      have kindDeep : kind.depth ≤ budget := Nat.le_trans (Nat.le_max_left _ _) deep
      have restDeep : rest.depth ≤ budget := Nat.le_trans (Nat.le_max_right _ _) deep
      change (Field.write number kind record.1 ++ rest.write record.2).length < wireBound at fits
      rw [List.length_append] at fits
      have first := kind.written_write valid kindDeep kindNumbered record.1 (by omega)
      have others := rest.written_write restDeep restNumbered record.2 (by omega)
      refine (first.within (fun value => (value, rest.empty)) ?_ ?_).append
        (others.within (fun value => (kind.canonical record.1, value)) ?_ ?_)
      · intro other member
        exact List.mem_cons.mpr (.inl (List.mem_singleton.mp member))
      · intro other member wire bytes after before merged merges
        rw [List.mem_singleton.mp member]
        exact Schema.mergeField_own merges _
      · intro other member
        exact List.mem_cons_of_mem number member
      · intro other member wire bytes after before merged merges
        have foreign : number ≠ other := fun same => new (same ▸ member)
        exact Schema.mergeField_other foreign merges _

end

/-- Reading what was written for a message gives back the message. -/
theorem Schema.read?_write (schema : Schema) (deep : schema.depth ≤ deepestNesting)
    (wellNumbered : schema.wellNumbered = true) (record : schema.Record)
    (fits : (schema.write record).length < wireBound) :
    schema.read? (schema.write record) = some (schema.canonical record) :=
  (schema.written_write deep wellNumbered record fits).mergeFields (Nat.le_refl _)

end NodeTelemetry.Protobuf
