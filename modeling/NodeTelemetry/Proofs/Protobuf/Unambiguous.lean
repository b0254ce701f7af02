/-
# Bytes with one meaning

Two messages of a schema have the same bytes only if they differ in nothing but the signs
of zeros. A number, a key, a length and a scalar end where they themselves say so, and a
field ends where the next key has another number. A reader takes lengths of 64 bits only;
here messages may be as long as they like.
-/

import NodeTelemetry.Proofs.Protobuf.RoundTrip

namespace NodeTelemetry.Protobuf

/-! ## Numbers, keys and lengths -/

theorem ofNat_byte_inj {m n : Nat} (small : m < 256) (alsoSmall : n < 256)
    (same : UInt8.ofNat m = UInt8.ofNat n) : m = n := by
  have sameNat := congrArg UInt8.toNat same
  rwa [toNat_ofNat_byte small, toNat_ofNat_byte alsoSmall] at sameNat

/-- The top bit of a byte says whether the number goes on. -/
theorem writeVarint_append_inj {m n : Nat} {rest others : List UInt8}
    (same : writeVarint m ++ rest = writeVarint n ++ others) : m = n ∧ rest = others := by
  induction m using Nat.strongRecOn generalizing n with
  | ind m ih =>
      rw [writeVarint.eq_def m, writeVarint.eq_def n] at same
      split at same
      · rename_i last
        split at same
        · rename_i alsoLast
          obtain ⟨byte, tail⟩ := List.cons.inj same
          exact ⟨ofNat_byte_inj (by omega) (by omega) byte, tail⟩
        · have byte := ofNat_byte_inj (by omega) (by omega) (List.cons.inj same).1
          omega
      · rename_i more
        split at same
        · have byte := ofNat_byte_inj (by omega) (by omega) (List.cons.inj same).1
          omega
        · obtain ⟨byte, tail⟩ := List.cons.inj same
          have low := ofNat_byte_inj (by omega) (by omega) byte
          obtain ⟨high, tail⟩ := ih (m / 128) (by omega) tail
          exact ⟨by omega, tail⟩

theorem Wire.code_inj {wire other : Wire} (same : wire.code = other.code) : wire = other := by
  have codes := congrArg Wire.ofCode? same
  rw [Wire.ofCode?_code, Wire.ofCode?_code] at codes
  exact Option.some.inj codes

theorem writeKey_append_inj {number other : Nat} {wire form : Wire} {rest others : List UInt8}
    (same : writeKey number wire ++ rest = writeKey other form ++ others) :
    number = other ∧ wire = form ∧ rest = others := by
  obtain ⟨key, tail⟩ := writeVarint_append_inj same
  have code := wire.code_lt
  have otherCode := form.code_lt
  exact ⟨by omega, Wire.code_inj (by omega), tail⟩

theorem writeDelimited_append_inj {payload other rest others : List UInt8}
    (same : writeDelimited payload ++ rest = writeDelimited other ++ others) :
    payload = other ∧ rest = others := by
  unfold writeDelimited at same
  rw [List.append_assoc, List.append_assoc] at same
  obtain ⟨length, tail⟩ := writeVarint_append_inj same
  exact List.append_inj tail length

/-! ## Scalars -/

namespace Scalar

theorem utf8_inj {text other : String} (same : utf8 text = utf8 other) : text = other := by
  have read := ofUtf8?_utf8 text
  rw [same, ofUtf8?_utf8] at read
  exact (Option.some.inj read).symm

theorem littleEndian_inj {count m n : Nat} (small : m < Nat.pow 256 count)
    (alsoSmall : n < Nat.pow 256 count) (same : littleEndian count m = littleEndian count n) :
    m = n := by
  rw [← ofLittleEndian_littleEndian count small, same, ofLittleEndian_littleEndian count alsoSmall]

/-- A scalar is known from its bytes, whatever follows. -/
theorem write_append_inj (scalar : Scalar) {value other : scalar.Value}
    {rest others : List UInt8}
    (same : scalar.write value ++ rest = scalar.write other ++ others) :
    value = other ∧ rest = others := by
  cases scalar with
  | text =>
      obtain ⟨bytes, tail⟩ := writeDelimited_append_inj same
      exact ⟨utf8_inj bytes, tail⟩
  | uint64 =>
      obtain ⟨number, tail⟩ := writeVarint_append_inj same
      exact ⟨UInt64.toNat_inj.mp number, tail⟩
  | uint32 =>
      obtain ⟨number, tail⟩ := writeVarint_append_inj same
      exact ⟨UInt32.toNat_inj.mp number, tail⟩
  | int64 =>
      obtain ⟨number, tail⟩ := writeVarint_append_inj same
      exact ⟨congrArg UInt64.toInt64 (UInt64.toNat_inj.mp number), tail⟩
  | enumeration =>
      obtain ⟨number, tail⟩ := writeVarint_append_inj same
      have low := congrArg (fun n => (UInt32.ofNat n).toInt32) number
      simp only [ofNat_toInt64] at low
      exact ⟨low, tail⟩
  | double =>
      have length : (littleEndian 8 (Binary64.bits value).toNat).length =
          (littleEndian 8 (Binary64.bits other).toNat).length := by
        rw [length_littleEndian, length_littleEndian]
      obtain ⟨bytes, tail⟩ := List.append_inj same length
      have bits := littleEndian_inj (UInt64.toNat_lt _) (UInt64.toNat_lt _) bytes
      exact ⟨congrArg Binary64.mk (UInt64.toNat_inj.mp bits), tail⟩

end Scalar

/-! ## Fields -/

/-- No field with this number comes next. -/
def Ends (number : Nat) (bytes : List UInt8) : Prop :=
  ∀ wire more, bytes ≠ writeKey number wire ++ more

theorem ends_nil (number : Nat) : Ends number [] := by
  intro wire more same
  exact writeKey_ne_nil number wire (List.append_eq_nil_iff.mp same.symm).1

section Occurrences

variable {α β : Type}

/-- The values of a field, each under the key of the field. -/
def occurrences (number : Nat) (wire : Wire) (payload : α → List UInt8) (values : List α) :
    List UInt8 :=
  values.flatMap fun value => writeKey number wire ++ payload value

variable {number : Nat} {wire : Wire} {payload : α → List UInt8}

theorem occurrences_cons (value : α) (values : List α) (rest : List UInt8) :
    occurrences number wire payload (value :: values) ++ rest =
      writeKey number wire ++
        (payload value ++ (occurrences number wire payload values ++ rest)) := by
  simp [occurrences]

/-- If the values are known from their payloads, then all of them are known up to the point
where the field ends. -/
theorem occurrences_append_inj (known : α → β)
    (unambiguous : ∀ {value other rest others}, payload value ++ rest = payload other ++ others →
      known value = known other ∧ rest = others)
    {values : List α} {others : List α} {rest after : List UInt8}
    (ends : Ends number rest) (alsoEnds : Ends number after)
    (same : occurrences number wire payload values ++ rest =
      occurrences number wire payload others ++ after) :
    values.map known = others.map known ∧ rest = after := by
  induction values generalizing others with
  | nil =>
      cases others with
      | nil => exact ⟨rfl, same⟩
      | cons other others =>
          rw [occurrences_cons] at same
          exact absurd same (ends wire _)
  | cons value values ih =>
      cases others with
      | nil =>
          rw [occurrences_cons] at same
          exact absurd same.symm (alsoEnds wire _)
      | cons other others =>
          rw [occurrences_cons, occurrences_cons] at same
          obtain ⟨-, -, payloads⟩ := writeKey_append_inj same
          obtain ⟨first, later⟩ := unambiguous payloads
          obtain ⟨more, tail⟩ := ih later
          exact ⟨List.cons_eq_cons.mpr ⟨first, more⟩, tail⟩

theorem map_eq_of_map_toList {known : α → β} {value other : Option α}
    (same : value.toList.map known = other.toList.map known) :
    value.map known = other.map known := by
  have heads := congrArg List.head? same
  rwa [List.head?_map, List.head?_map, Option.head?_toList, Option.head?_toList] at heads

end Occurrences

/-- The bytes of a plain scalar are those of its occurrences: none at the default. -/
theorem Field.write_plain (number : Nat) (scalar : Scalar) (value : scalar.Value) :
    Field.write number (.plain scalar) value =
      occurrences number scalar.wire scalar.write
        (if scalar.isDefault value then [] else [value]) := by
  change (if scalar.isDefault value then [] else _) = _
  split
  · rfl
  · exact (List.flatMap_singleton _ _).symm

theorem Field.write_optional (number : Nat) (scalar : Scalar) (value : Option scalar.Value) :
    Field.write number (.optional scalar) value =
      occurrences number scalar.wire scalar.write value.toList := by
  cases value with
  | none => rfl
  | some present => exact (List.flatMap_singleton _ _).symm

theorem Field.write_one (number : Nat) (schema : Schema) (value : Option schema.Record) :
    Field.write number (.one schema) value =
      occurrences number .delimited (fun record => writeDelimited (schema.write record))
        value.toList := by
  cases value with
  | none => rfl
  | some present => exact (List.flatMap_singleton _ _).symm

/-- What is written for a field begins with its key, unless nothing is. -/
theorem Field.write_begins (number : Nat) (field : Field) (value : field.Value) :
    Field.write number field value = [] ∨
      ∃ wire more, Field.write number field value = writeKey number wire ++ more := by
  have begins : ∀ {α : Type} (wire : Wire) (payload : α → List UInt8) (values : List α),
      occurrences number wire payload values = [] ∨
        ∃ wire' more, occurrences number wire payload values = writeKey number wire' ++ more := by
    intro α wire payload values
    cases values with
    | nil => exact .inl rfl
    | cons value values => exact .inr ⟨wire, _, List.append_assoc _ _ _⟩
  cases field with
  | plain scalar =>
      rw [Field.write_plain]
      exact begins _ _ _
  | optional scalar =>
      rw [Field.write_optional]
      exact begins _ _ _
  | texts => exact begins .delimited (Scalar.write .text) value
  | one schema =>
      rw [Field.write_one]
      exact begins _ _ _
  | many schema =>
      exact begins .delimited (fun record => writeDelimited (schema.write record)) value

/-! ## Messages -/

/-- A message does not begin with a field that it does not list. -/
theorem Schema.ends_write {number : Nat} (schema : Schema) (absent : number ∉ schema.numbers)
    (record : schema.Record) : Ends number (schema.write record) := by
  cases schema with
  | done => exact ends_nil number
  | field own name kind rest =>
      obtain ⟨foreign, others⟩ := not_or.mp (mt List.mem_cons.mpr absent)
      change Ends number (Field.write own kind record.1 ++ rest.write record.2)
      obtain nothing | ⟨form, more, begins⟩ := kind.write_begins own record.1
      · rw [nothing]
        exact rest.ends_write others record.2
      · intro wire after same
        rw [begins, List.append_assoc] at same
        exact foreign (writeKey_append_inj same).1.symm

mutual

/-- A field is known from its bytes up to where it ends, apart from the sign of a zero. -/
theorem Field.write_append_inj {number : Nat} (field : Field)
    (wellNumbered : field.wellNumbered = true) {value other : field.Value}
    {rest others : List UInt8} (ends : Ends number rest) (alsoEnds : Ends number others)
    (same : Field.write number field value ++ rest = Field.write number field other ++ others) :
    field.canonical value = field.canonical other ∧ rest = others := by
  cases field with
  | plain scalar =>
      rw [Field.write_plain, Field.write_plain] at same
      obtain ⟨values, tail⟩ := occurrences_append_inj id scalar.write_append_inj ends alsoEnds same
      have kept : ∀ value : scalar.Value, (Field.plain scalar).canonical value =
          (if scalar.isDefault value then [] else [value]).headD scalar.default := by
        intro value
        change (if scalar.isDefault value then scalar.default else value) = _
        split <;> rfl
      rw [List.map_id, List.map_id] at values
      rw [kept, kept, values]
      exact ⟨rfl, tail⟩
  | optional scalar =>
      rw [Field.write_optional, Field.write_optional] at same
      obtain ⟨values, tail⟩ := occurrences_append_inj id scalar.write_append_inj ends alsoEnds same
      have present := map_eq_of_map_toList values
      rw [Option.map_id] at present
      exact ⟨present, tail⟩
  | texts =>
      obtain ⟨values, tail⟩ :=
        occurrences_append_inj id (Scalar.write_append_inj .text) ends alsoEnds same
      rw [List.map_id, List.map_id] at values
      exact ⟨values, tail⟩
  | one schema =>
      rw [Field.write_one, Field.write_one] at same
      obtain ⟨values, tail⟩ := occurrences_append_inj schema.canonical
        (fun payloads => (writeDelimited_append_inj payloads).imp_left
          (schema.write_inj wellNumbered)) ends alsoEnds same
      exact ⟨map_eq_of_map_toList values, tail⟩
  | many schema =>
      exact occurrences_append_inj schema.canonical
        (fun payloads => (writeDelimited_append_inj payloads).imp_left
          (schema.write_inj wellNumbered)) ends alsoEnds same

/-- A message is known from its bytes, apart from the signs of zeros. -/
theorem Schema.write_inj (schema : Schema) (wellNumbered : schema.wellNumbered = true)
    {record other : schema.Record} (same : schema.write record = schema.write other) :
    schema.canonical record = schema.canonical other := by
  cases schema with
  | done => rfl
  | field number name kind rest =>
      obtain ⟨-, new, kindNumbered, restNumbered⟩ := Schema.wellNumbered_field wellNumbered
      obtain ⟨first, later⟩ := kind.write_append_inj kindNumbered
        (rest.ends_write new record.2) (rest.ends_write new other.2) same
      exact Prod.ext first (rest.write_inj restNumbered later)

end

end NodeTelemetry.Protobuf
