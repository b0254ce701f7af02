/-
# Fields that a message does not declare

The messages of the runtime have more fields than are declared here. A reader skips them:
each says in its key how its payload is delimited, and that is all that has to be known of
it. So bytes in which foreign fields stand between the others, in the message or in the
messages in it, are read as they are without them.

Padding is a relation between bytes, whatever message they stand for, and a reader does not
tell bytes from their padding. That what is written for a message is a sequence of fields is
a fact of its own; it says that there is something to pad.
-/

import NodeTelemetry.Inventory.Messages
import NodeTelemetry.Proofs.Protobuf.Doubles
import NodeTelemetry.Proofs.Protobuf.Unambiguous

namespace NodeTelemetry.Protobuf

/-! ## Numbers -/

/-- Groups of seven bits, the lowest first. The top bit of a byte says that another follows. -/
inductive IsGroups : List UInt8 → Nat → Prop where
  | last {byte : UInt8} (ends : byte.toNat < 128) : IsGroups [byte] byte.toNat
  | more {byte : UInt8} {rest : List UInt8} {high : Nat} (goesOn : 128 ≤ byte.toNat)
      (others : IsGroups rest high) : IsGroups (byte :: rest) (byte.toNat - 128 + 128 * high)

/-- A number on the wire, with more groups than it needs or without them. -/
structure IsVarint (bytes : List UInt8) (n : Nat) : Prop where
  groups : IsGroups bytes n
  short : bytes.length ≤ 10
  small : n < wireBound

theorem IsGroups.length_pos {bytes : List UInt8} {n : Nat} (isGroups : IsGroups bytes n) :
    0 < bytes.length := by
  cases isGroups <;> exact Nat.succ_pos _

theorem IsGroups.readVarintFrom {bytes : List UInt8} {n : Nat} (isGroups : IsGroups bytes n)
    {position groups : Nat} (place : position + groups = lastPosition)
    (short : bytes.length ≤ groups + 1) (small : n < 2 * Nat.pow 128 groups)
    (rest : List UInt8) : readVarintFrom position (bytes ++ rest) = some (n, rest) := by
  induction isGroups generalizing position groups with
  | @last byte ends =>
      rw [List.singleton_append, Protobuf.readVarintFrom, if_pos ends]
      refine if_neg fun overlong => ?_
      obtain rfl : groups = 0 := by omega
      exact absurd small (Nat.not_lt.mpr overlong.2)
  | @more byte bytes high goesOn others ih =>
      have another := others.length_pos
      rw [List.length_cons] at short
      obtain ⟨groups, rfl⟩ : ∃ less, groups = less + 1 := ⟨groups - 1, by omega⟩
      have bound : high < 2 * Nat.pow 128 groups := by
        have wide : byte.toNat - 128 + 128 * high < 2 * (Nat.pow 128 groups * 128) := small
        omega
      rw [List.cons_append, Protobuf.readVarintFrom, if_neg (by omega), if_neg (by omega),
        ih (by omega) (by omega) bound]
      rfl

theorem IsVarint.readVarint {bytes : List UInt8} {n : Nat} (isVarint : IsVarint bytes n)
    (rest : List UInt8) : readVarint (bytes ++ rest) = some (n, rest) :=
  isVarint.groups.readVarintFrom rfl isVarint.short isVarint.small rest

theorem isGroups_writeVarint (n : Nat) : IsGroups (writeVarint n) n := by
  induction n using Nat.strongRecOn with
  | ind n ih =>
      rw [writeVarint]
      split
      · next small =>
          have single := @IsGroups.last (UInt8.ofNat n)
          rw [toNat_ofNat_byte (by omega)] at single
          exact single small
      · next large =>
          have low : (UInt8.ofNat (n % 128 + 128)).toNat = n % 128 + 128 :=
            toNat_ofNat_byte (by omega)
          have goesOn : 128 ≤ (UInt8.ofNat (n % 128 + 128)).toNat := by omega
          have more := IsGroups.more goesOn (ih (n / 128) (by omega))
          rwa [low, Nat.add_sub_cancel, Nat.mod_add_div] at more

theorem length_writeVarint_le (groups : Nat) {n : Nat} (small : n < 2 * Nat.pow 128 groups) :
    (writeVarint n).length ≤ groups + 1 := by
  induction groups generalizing n with
  | zero =>
      have single : n < 2 := small
      rw [writeVarint, if_pos (by omega)]
      exact Nat.le_refl 1
  | succ groups ih =>
      rw [writeVarint]
      split
      · exact Nat.succ_le_succ (Nat.zero_le _)
      · have bound : n < 2 * (Nat.pow 128 groups * 128) := small
        exact Nat.succ_le_succ (ih (by omega))

theorem isVarint_writeVarint {n : Nat} (small : n < wireBound) : IsVarint (writeVarint n) n where
  groups := isGroups_writeVarint n
  short := length_writeVarint_le 9 small
  small := small

theorem length_writeVarint_mono {m n : Nat} (atMost : m ≤ n) :
    (writeVarint m).length ≤ (writeVarint n).length := by
  induction n using Nat.strongRecOn generalizing m with
  | ind n ih =>
      rw [writeVarint.eq_def m, writeVarint.eq_def n]
      split
      · split <;> exact Nat.succ_le_succ (Nat.zero_le _)
      · rw [if_neg (by omega)]
        exact Nat.succ_le_succ (ih (n / 128) (by omega) (by omega))

theorem length_writeDelimited_mono {payload padded : List UInt8}
    (atMost : payload.length ≤ padded.length) :
    (writeDelimited payload).length ≤ (writeDelimited padded).length := by
  unfold writeDelimited
  rw [List.length_append, List.length_append]
  exact Nat.add_le_add (length_writeVarint_mono atMost) atMost

/-! ## Fields -/

/-- A payload, as its wire form delimits it. -/
inductive IsPayload : Wire → List UInt8 → Prop where
  | varint {bytes : List UInt8} {n : Nat} (isVarint : IsVarint bytes n) : IsPayload .varint bytes
  | fixed64 {bytes : List UInt8} (length : bytes.length = 8) : IsPayload .fixed64 bytes
  | delimited {lead payload : List UInt8} (length : IsVarint lead payload.length) :
      IsPayload .delimited (lead ++ payload)
  | fixed32 {bytes : List UInt8} (length : bytes.length = 4) : IsPayload .fixed32 bytes

/-- A field with a number, of any wire form but that of a group. -/
inductive IsField (number : Nat) : List UInt8 → Prop where
  | mk {wire : Wire} {lead payload : List UInt8} (valid : IsFieldNumber number)
      (key : IsVarint lead (8 * number + wire.code)) (isPayload : IsPayload wire payload) :
      IsField number (lead ++ payload)

/-- What the schema says of the field with a number. -/
def Schema.kind? (number : Nat) : Schema → Option Field
  | .done => none
  | .field own _ kind rest => if own = number then some kind else rest.kind? number

/-- The second bytes are the first with foreign fields inserted. They may stand before and
after each field, also within embedded messages, whose lengths are those of the padded
ones. -/
inductive Pads : Schema → List UInt8 → List UInt8 → Prop where
  | nil {schema : Schema} : Pads schema [] []
  | foreign {schema : Schema} {number : Nat} {field plain padded : List UInt8}
      (undeclared : number ∉ schema.numbers) (isField : IsField number field)
      (others : Pads schema plain padded) : Pads schema plain (field ++ padded)
  | kept {schema : Schema} {number : Nat} {field plain padded : List UInt8}
      (isField : IsField number field) (others : Pads schema plain padded) :
      Pads schema (field ++ plain) (field ++ padded)
  | within {schema embedded : Schema} {number : Nat} {inner innerPadded plain padded : List UInt8}
      (declared : schema.kind? number = some (.one embedded) ∨
        schema.kind? number = some (.many embedded))
      (valid : IsFieldNumber number) (inside : Pads embedded inner innerPadded)
      (others : Pads schema plain padded) :
      Pads schema (writeKey number .delimited ++ writeDelimited inner ++ plain)
        (writeKey number .delimited ++ writeDelimited innerPadded ++ padded)

theorem Pads.length_le {schema : Schema} {plain padded : List UInt8}
    (pads : Pads schema plain padded) : plain.length ≤ padded.length := by
  induction pads with
  | nil => exact Nat.le_refl _
  | foreign _ _ _ ih =>
      rw [List.length_append]
      omega
  | kept _ _ ih =>
      rw [List.length_append, List.length_append]
      omega
  | within _ _ _ _ inside others =>
      have longer := length_writeDelimited_mono inside
      simp only [List.length_append]
      omega

theorem Schema.depth_kind? {schema : Schema} {number : Nat} {kind : Field}
    (declared : schema.kind? number = some kind) : kind.depth ≤ schema.depth := by
  cases schema with
  | done => cases declared
  | field own name first rest =>
      rw [Schema.kind?] at declared
      split at declared
      · cases declared
        exact Nat.le_max_left _ _
      · exact Nat.le_trans (rest.depth_kind? declared) (Nat.le_max_right _ _)

/-! ## Readers -/

theorem isVarint_writeKey {number : Nat} (valid : IsFieldNumber number) (wire : Wire) :
    IsVarint (writeKey number wire) (8 * number + wire.code) := by
  have code := wire.code_lt
  have small : 8 * number + wire.code < 0x100000000 := by
    have bound := valid.2
    omega
  exact isVarint_writeVarint (Nat.lt_trans small (by decide))

/-- A key is read from any of its spellings. -/
theorem IsVarint.readKey {number : Nat} {wire : Wire} {lead : List UInt8}
    (key : IsVarint lead (8 * number + wire.code)) (valid : IsFieldNumber number)
    (rest : List UInt8) : readKey (lead ++ rest) = some (number, wire, rest) := by
  have reads := readKey_writeKey valid wire rest
  unfold Protobuf.readKey at reads ⊢
  rw [(isVarint_writeKey valid wire).readVarint] at reads
  rwa [key.readVarint]

section Readers

variable {α β : Type}

/-- A reader makes the same of two payloads, whatever follows them, and stops where they end. -/
def ReadsAlike (merge : List UInt8 → α → Option (α × List UInt8)) (payload other : List UInt8) :
    Prop :=
  ∀ record, ∃ outcome : Option α, ∀ rest,
    merge (payload ++ rest) record = outcome.map (·, rest) ∧
      merge (other ++ rest) record = outcome.map (·, rest)

/-- A reader that hands its bytes to another and only has its own way with the outcome. -/
theorem ReadsAlike.map {inner : List UInt8 → β → Option (β × List UInt8)}
    {merge : List UInt8 → α → Option (α × List UInt8)} {payload other : List UInt8}
    (alike : ReadsAlike inner payload other) (before : α → β) (after : α → β → α)
    (hands : ∀ bytes record, merge bytes record =
      (inner bytes (before record)).map fun (merged, rest) => (after record merged, rest)) :
    ReadsAlike merge payload other := by
  intro record
  obtain ⟨outcome, reads⟩ := alike (before record)
  refine ⟨outcome.map (after record), fun rest => ?_⟩
  obtain ⟨first, second⟩ := reads rest
  rw [hands, hands, first, second]
  simp only [Option.map_map]
  exact ⟨rfl, rfl⟩

theorem IsPayload.exists_number {bytes : List UInt8} (isPayload : IsPayload .varint bytes) :
    ∃ n, ∀ rest, readVarint (bytes ++ rest) = some (n, rest) := by
  cases isPayload with
  | @varint _ n isVarint => exact ⟨n, isVarint.readVarint⟩

theorem IsPayload.exists_payload {bytes : List UInt8} (isPayload : IsPayload .delimited bytes) :
    ∃ payload, ∀ rest, readDelimited (bytes ++ rest) = some (payload, rest) := by
  cases isPayload with
  | @delimited lead payload length =>
      refine ⟨payload, fun rest => ?_⟩
      unfold Protobuf.readDelimited
      rw [List.append_assoc, length.readVarint]
      exact splitAt?_append payload rest

/-- Of a field that is skipped, it is known where it ends. -/
theorem IsPayload.skipField {wire : Wire} {bytes : List UInt8} (isPayload : IsPayload wire bytes)
    (budget number : Nat) (rest : List UInt8) :
    skipField (budget + 1) number wire (bytes ++ rest) = some rest := by
  cases isPayload with
  | varint isVarint =>
      change (readVarint _).map _ = _
      rw [isVarint.readVarint]
      rfl
  | fixed64 length =>
      change (splitAt? 8 _).map _ = _
      rw [← length, splitAt?_append]
      rfl
  | delimited length =>
      obtain ⟨payload, reads⟩ := (IsPayload.delimited length).exists_payload
      change (Protobuf.readDelimited _).map _ = _
      rw [reads]
      rfl
  | fixed32 length =>
      change (splitAt? 4 _).map _ = _
      rw [← length, splitAt?_append]
      rfl

/-- The payload of a scalar holds a value or is refused, and nothing after it matters. -/
theorem Scalar.exists_outcome (scalar : Scalar) {bytes : List UInt8}
    (isPayload : IsPayload scalar.wire bytes) :
    ∃ outcome : Option scalar.Value, ∀ rest,
      scalar.read (bytes ++ rest) = outcome.map (·, rest) := by
  cases scalar with
  | text =>
      obtain ⟨payload, reads⟩ := isPayload.exists_payload
      refine ⟨ofUtf8? payload, fun rest => ?_⟩
      simp only [read, reads, Option.bind_eq_bind, Option.bind_some, Option.pure_def]
      cases ofUtf8? payload <;> rfl
  | double =>
      have length : bytes.length = 8 := by
        cases isPayload with
        | fixed64 length => exact length
      refine ⟨some ⟨UInt64.ofNat (ofLittleEndian bytes)⟩, fun rest => ?_⟩
      simp only [read]
      rw [← length, splitAt?_append]
      rfl
  | uint64 =>
      obtain ⟨n, reads⟩ := isPayload.exists_number
      exact ⟨some (UInt64.ofNat n), fun rest => congrArg (Option.map _) (reads rest)⟩
  | uint32 =>
      obtain ⟨n, reads⟩ := isPayload.exists_number
      exact ⟨some (UInt32.ofNat n), fun rest => congrArg (Option.map _) (reads rest)⟩
  | int64 =>
      obtain ⟨n, reads⟩ := isPayload.exists_number
      exact ⟨some (UInt64.ofNat n).toInt64, fun rest => congrArg (Option.map _) (reads rest)⟩
  | enumeration =>
      obtain ⟨n, reads⟩ := isPayload.exists_number
      exact ⟨some (UInt32.ofNat n).toInt32, fun rest => congrArg (Option.map _) (reads rest)⟩

/-- An embedded message is read from its own bytes, and with the same outcome from any bytes
that are read alike. -/
theorem mergeEmbedded_eq {mergeField : Nat → Wire → List UInt8 → α → Option (α × List UInt8)}
    {bytes payload rest : List UInt8} (reads : readDelimited (bytes ++ rest) = some (payload, rest))
    (record : α) :
    mergeEmbedded mergeField (bytes ++ rest) record =
      (mergeFields mergeField payload.length payload record).map (·, rest) := by
  unfold mergeEmbedded
  rw [reads]
  simp only [Option.bind_eq_bind, Option.bind_some]
  cases mergeFields mergeField payload.length payload record <;> rfl

section Fields

variable {budget number : Nat} {wire : Wire} {payload other : List UInt8}

/-- The two kinds of embedded messages. -/
theorem Field.readsAlike_embedded {kind : Field} {schema : Schema} {bytes padded : List UInt8}
    (embeds : kind = .one schema ∨ kind = .many schema)
    (reads : ∀ rest, readDelimited (payload ++ rest) = some (bytes, rest))
    (alsoReads : ∀ rest, readDelimited (other ++ rest) = some (padded, rest))
    (alike : ∀ record, mergeFields (schema.mergeField budget) bytes.length bytes record =
      mergeFields (schema.mergeField budget) padded.length padded record) :
    ReadsAlike (kind.merge (budget + 1) .delimited) payload other := by
  have embedded : ReadsAlike (mergeEmbedded (schema.mergeField budget)) payload other := by
    intro record
    refine ⟨mergeFields (schema.mergeField budget) bytes.length bytes record, fun rest => ?_⟩
    rw [mergeEmbedded_eq (reads rest), mergeEmbedded_eq (alsoReads rest), alike]
    exact ⟨rfl, rfl⟩
  rcases embeds with rfl | rfl
  · refine embedded.map (·.getD schema.empty) (fun _ => some) fun bytes value => ?_
    rw [Field.merge, if_pos rfl]
  · refine embedded.map (fun _ => schema.empty) (fun values merged => values ++ [merged])
      fun bytes values => ?_
    rw [Field.merge, if_pos rfl]
    rfl

/-- A field that is refused is refused whatever follows it. -/
theorem Field.readsAlike_refused {kind : Field}
    (refused : ∀ bytes value, kind.merge budget wire bytes value = none) :
    ReadsAlike (kind.merge budget wire) payload payload := fun value =>
  ⟨none, fun _ => ⟨refused _ value, refused _ value⟩⟩

/-- A field is read by its payload alone. -/
theorem Field.readsAlike_self (kind : Field) (isPayload : IsPayload wire payload) :
    ReadsAlike (kind.merge budget wire) payload payload := by
  cases kind with
  | plain scalar =>
      by_cases own : wire = scalar.wire
      · subst own
        intro value
        obtain ⟨outcome, reads⟩ := scalar.exists_outcome isPayload
        refine ⟨outcome, fun rest => ?_⟩
        rw [Field.merge, if_pos rfl, reads]
        exact ⟨rfl, rfl⟩
      · exact Field.readsAlike_refused fun bytes value => by rw [Field.merge, if_neg own]
  | optional scalar =>
      by_cases own : wire = scalar.wire
      · subst own
        intro value
        obtain ⟨outcome, reads⟩ := scalar.exists_outcome isPayload
        refine ⟨outcome.map some, fun rest => ?_⟩
        rw [Field.merge, if_pos rfl, reads, Option.map_map, Option.map_map]
        exact ⟨rfl, rfl⟩
      · exact Field.readsAlike_refused fun bytes value => by rw [Field.merge, if_neg own]
  | texts =>
      by_cases own : wire = .delimited
      · subst own
        intro values
        obtain ⟨outcome, reads⟩ := Scalar.exists_outcome .text isPayload
        refine ⟨outcome.map fun text => values ++ [text], fun rest => ?_⟩
        rw [Field.merge, if_pos rfl, reads, Option.map_map, Option.map_map]
        exact ⟨rfl, rfl⟩
      · exact Field.readsAlike_refused fun bytes value => by rw [Field.merge, if_neg own]
  | one schema =>
      obtain _ | budget := budget
      · exact Field.readsAlike_refused fun bytes value => by rw [Field.merge]
      by_cases own : wire = .delimited
      · subst own
        obtain ⟨bytes, reads⟩ := isPayload.exists_payload
        exact Field.readsAlike_embedded (.inl rfl) reads reads fun _ => rfl
      · exact Field.readsAlike_refused fun bytes value => by rw [Field.merge, if_neg own]
  | many schema =>
      obtain _ | budget := budget
      · exact Field.readsAlike_refused fun bytes value => by rw [Field.merge]
      by_cases own : wire = .delimited
      · subst own
        obtain ⟨bytes, reads⟩ := isPayload.exists_payload
        exact Field.readsAlike_embedded (.inr rfl) reads reads fun _ => rfl
      · exact Field.readsAlike_refused fun bytes value => by rw [Field.merge, if_neg own]

/-- A reader of a message reads alike what the reader of the field with the number does, if
there is one, and what it skips alike otherwise. -/
theorem Schema.readsAlike (schema : Schema)
    (alike : ∀ kind, schema.kind? number = some kind →
      ReadsAlike (kind.merge budget wire) payload other)
    (skips : schema.kind? number = none → ∀ rest,
      skipField budget number wire (payload ++ rest) = some rest ∧
        skipField budget number wire (other ++ rest) = some rest) :
    ReadsAlike (schema.mergeField budget number wire) payload other := by
  cases schema with
  | done =>
      intro record
      refine ⟨some record, fun rest => ?_⟩
      obtain ⟨first, second⟩ := skips rfl rest
      rw [Schema.mergeField, Schema.mergeField, first, second]
      exact ⟨rfl, rfl⟩
  | field own name kind others =>
      rw [Schema.kind?] at skips
      simp only [Schema.kind?] at alike
      by_cases same : own = number
      · refine (alike kind (if_pos same)).map Prod.fst (fun record merged => (merged, record.2))
          fun bytes record => ?_
        rw [Schema.mergeField, if_pos same]
      · simp only [if_neg same] at alike skips
        refine (others.readsAlike alike skips).map Prod.snd
          (fun record merged => (record.1, merged)) fun bytes record => ?_
        rw [Schema.mergeField, if_neg same]

end Fields

end Readers

/-! ## Padding -/

section Padding

variable {schema : Schema} {number budget : Nat}

/-- One field of a sequence is read, and then the others. -/
theorem mergeFields_field {α : Type}
    {mergeField : Nat → Wire → List UInt8 → α → Option (α × List UInt8)} {wire : Wire}
    {lead : List UInt8} (valid : IsFieldNumber number)
    (key : IsVarint lead (8 * number + wire.code)) (fuel : Nat) (rest : List UInt8) (record : α) :
    mergeFields mergeField (fuel + 1) (lead ++ rest) record =
      (mergeField number wire rest record).bind fun (merged, after) =>
        mergeFields mergeField fuel after merged := by
  have more : lead ++ rest ≠ [] :=
    List.append_ne_nil_of_left_ne_nil (List.length_pos_iff.mp key.groups.length_pos) rest
  rw [mergeFields_succ more, key.readKey valid]
  rfl

/-- Fields that are read alike lead on alike. -/
theorem mergeFields_alike {α : Type}
    {mergeField : Nat → Wire → List UInt8 → α → Option (α × List UInt8)} {wire : Wire}
    {lead payload other plain padded : List UInt8} (valid : IsFieldNumber number)
    (key : IsVarint lead (8 * number + wire.code))
    (alike : ReadsAlike (mergeField number wire) payload other) {fuel otherFuel : Nat}
    (others : ∀ record,
      mergeFields mergeField fuel plain record = mergeFields mergeField otherFuel padded record)
    (record : α) :
    mergeFields mergeField (fuel + 1) (lead ++ (payload ++ plain)) record =
      mergeFields mergeField (otherFuel + 1) (lead ++ (other ++ padded)) record := by
  obtain ⟨outcome, reads⟩ := alike record
  rw [mergeFields_field valid key, mergeFields_field valid key, (reads plain).1, (reads padded).2]
  cases outcome with
  | none => rfl
  | some merged => exact others merged

/-- A foreign field leaves the record as it is. -/
theorem Schema.mergeField_foreign {schema : Schema} (undeclared : number ∉ schema.numbers)
    {wire : Wire} {bytes rest : List UInt8} (skips : skipField budget number wire bytes = some rest)
    (record : schema.Record) :
    schema.mergeField budget number wire bytes record = some (record, rest) := by
  cases schema with
  | done => rw [Schema.mergeField, skips]; rfl
  | field own name kind others =>
      obtain ⟨other, absent⟩ := not_or.mp (mt List.mem_cons.mpr undeclared)
      exact Schema.mergeField_other (Ne.symm other)
        (Schema.mergeField_foreign absent skips record.2) record.1

/-- A reader does not tell bytes from their padding. -/
theorem Pads.mergeFields_eq {plain padded : List UInt8} (pads : Pads schema plain padded)
    (deep : schema.depth < budget) (fits : padded.length < wireBound) {fuel paddedFuel : Nat}
    (enough : plain.length ≤ fuel) (alsoEnough : padded.length ≤ paddedFuel)
    (record : schema.Record) :
    mergeFields (schema.mergeField budget) fuel plain record =
      mergeFields (schema.mergeField budget) paddedFuel padded record := by
  induction pads generalizing budget fuel paddedFuel with
  | nil => cases fuel <;> cases paddedFuel <;> rfl
  | @foreign schema number _ plain padded undeclared isField others ih =>
      obtain ⟨valid, key, isPayload⟩ := isField
      obtain ⟨budget, rfl⟩ : ∃ less, budget = less + 1 := ⟨budget - 1, by omega⟩
      have positive := key.groups.length_pos
      simp only [List.length_append] at fits alsoEnough
      obtain ⟨paddedFuel, rfl⟩ : ∃ less, paddedFuel = less + 1 := ⟨paddedFuel - 1, by omega⟩
      rw [List.append_assoc, mergeFields_field valid key,
        Schema.mergeField_foreign undeclared (isPayload.skipField budget number padded)]
      exact ih deep (by omega) enough (by omega) record
  | @kept schema number _ plain padded isField others ih =>
      obtain ⟨valid, key, isPayload⟩ := isField
      obtain ⟨budget, rfl⟩ : ∃ less, budget = less + 1 := ⟨budget - 1, by omega⟩
      have positive := key.groups.length_pos
      simp only [List.length_append] at fits enough alsoEnough
      obtain ⟨fuel, rfl⟩ : ∃ less, fuel = less + 1 := ⟨fuel - 1, by omega⟩
      obtain ⟨paddedFuel, rfl⟩ : ∃ less, paddedFuel = less + 1 := ⟨paddedFuel - 1, by omega⟩
      rw [List.append_assoc, List.append_assoc]
      refine mergeFields_alike valid key ?_
        (fun merged => ih deep (by omega) (by omega) (by omega) merged) record
      refine schema.readsAlike (fun kind _ => kind.readsAlike_self isPayload) fun _ rest => ?_
      exact ⟨isPayload.skipField budget number rest, isPayload.skipField budget number rest⟩
  | @within schema embedded number inner innerPadded plain padded declared valid inside others
      insideIH ih =>
      have key : IsVarint (writeKey number .delimited) (8 * number + Wire.delimited.code) :=
        isVarint_writeKey valid .delimited
      have positive := key.groups.length_pos
      have atLeast := length_le_writeDelimited innerPadded
      simp only [List.length_append] at fits enough alsoEnough
      have innerDeep : embedded.depth < schema.depth := by
        rcases declared with declared | declared <;> exact Schema.depth_kind? declared
      obtain ⟨budget, rfl⟩ : ∃ less, budget = less + 1 := ⟨budget - 1, by omega⟩
      obtain ⟨fuel, rfl⟩ : ∃ less, fuel = less + 1 := ⟨fuel - 1, by omega⟩
      obtain ⟨paddedFuel, rfl⟩ : ∃ less, paddedFuel = less + 1 := ⟨paddedFuel - 1, by omega⟩
      have innerFits : innerPadded.length < wireBound := by omega
      have plainFits : inner.length < wireBound := Nat.lt_of_le_of_lt inside.length_le innerFits
      have innerAlike : ∀ before,
          mergeFields (embedded.mergeField budget) inner.length inner before =
            mergeFields (embedded.mergeField budget) innerPadded.length innerPadded before :=
        insideIH (by omega) innerFits (Nat.le_refl _) (Nat.le_refl _)
      rw [List.append_assoc, List.append_assoc]
      refine mergeFields_alike valid key ?_
        (fun merged => ih deep (by omega) (by omega) (by omega) merged) record
      refine schema.readsAlike (fun kind known => ?_) fun unknown => ?_
      · rw [known, Option.some.injEq, Option.some.injEq] at declared
        exact Field.readsAlike_embedded declared (readDelimited_writeDelimited plainFits)
          (readDelimited_writeDelimited innerFits) innerAlike
      · rw [unknown] at declared
        rcases declared with declared | declared <;> cases declared

/-- So the padding of what is read is read as the same message. -/
theorem Pads.read? {plain padded : List UInt8} (pads : Pads schema plain padded)
    (deep : schema.depth < deepestNesting) (fits : padded.length < wireBound) :
    schema.read? padded = schema.read? plain :=
  (pads.mergeFields_eq deep fits (Nat.le_refl _) (Nat.le_refl _) schema.empty).symm

/-- Two paddings one after the other. -/
theorem Pads.append {first firstPadded second secondPadded : List UInt8}
    (one : Pads schema first firstPadded) (two : Pads schema second secondPadded) :
    Pads schema (first ++ second) (firstPadded ++ secondPadded) := by
  induction one with
  | nil => exact two
  | foreign undeclared isField _ ih =>
      rw [List.append_assoc]
      exact .foreign undeclared isField (ih two)
  | kept isField _ ih =>
      rw [List.append_assoc, List.append_assoc]
      exact .kept isField (ih two)
  | @within _ _ _ _ _ plain padded declared valid inside _ _ ih =>
      rw [List.append_assoc _ plain, List.append_assoc _ padded]
      exact .within declared valid inside (ih two)

end Padding

/-! ## What is written is a sequence of fields -/

theorem Scalar.isPayload_write (scalar : Scalar) (value : scalar.Value)
    (fits : (scalar.write value).length < wireBound) :
    IsPayload scalar.wire (scalar.write value) := by
  cases scalar with
  | text =>
      have short := Nat.lt_of_le_of_lt (length_le_writeDelimited (utf8 value)) fits
      exact .delimited (isVarint_writeVarint short)
  | uint64 => exact .varint (isVarint_writeVarint (UInt64.toNat_lt value))
  | uint32 =>
      have small : UInt32.toNat value < wireBound :=
        Nat.lt_trans (UInt32.toNat_lt value) (by decide)
      exact .varint (isVarint_writeVarint small)
  | int64 => exact .varint (isVarint_writeVarint (UInt64.toNat_lt (Int64.toUInt64 value)))
  | enumeration =>
      exact .varint (isVarint_writeVarint (UInt64.toNat_lt (Int32.toInt64 value).toUInt64))
  | double => exact .fixed64 (length_littleEndian 8 _)

/-- The values of a field, each a field of its own. -/
theorem pads_occurrences {α : Type} {number : Nat} {wire : Wire} {payload : α → List UInt8}
    (outer : Schema) (valid : IsFieldNumber number)
    (isPayload : ∀ value, (payload value).length < wireBound → IsPayload wire (payload value))
    {values : List α} (fits : (occurrences number wire payload values).length < wireBound) :
    Pads outer (occurrences number wire payload values)
      (occurrences number wire payload values) := by
  induction values with
  | nil => exact .nil
  | cons value values ih =>
      have split : occurrences number wire payload (value :: values) =
          (writeKey number wire ++ payload value) ++ occurrences number wire payload values :=
        List.flatMap_cons
      rw [split] at fits ⊢
      simp only [List.length_append] at fits
      have isField : IsField number (writeKey number wire ++ payload value) :=
        .mk valid (isVarint_writeKey valid wire) (isPayload value (by omega))
      exact .kept isField (ih (by omega))

/-- What is written for a field can be padded between its values. -/
theorem Field.pads_write (outer : Schema) {number : Nat} (valid : IsFieldNumber number)
    (field : Field) (value : field.Value)
    (fits : (Field.write number field value).length < wireBound) :
    Pads outer (Field.write number field value) (Field.write number field value) := by
  have embedded : ∀ (schema : Schema) (record : schema.Record),
      (writeDelimited (schema.write record)).length < wireBound →
        IsPayload .delimited (writeDelimited (schema.write record)) := fun schema record fits =>
    .delimited (isVarint_writeVarint (Nat.lt_of_le_of_lt (length_le_writeDelimited _) fits))
  cases field with
  | plain scalar =>
      rw [Field.write_plain] at fits ⊢
      exact pads_occurrences outer valid scalar.isPayload_write fits
  | optional scalar =>
      rw [Field.write_optional] at fits ⊢
      exact pads_occurrences outer valid scalar.isPayload_write fits
  | texts => exact pads_occurrences outer valid (Scalar.isPayload_write .text) fits
  | one schema =>
      rw [Field.write_one] at fits ⊢
      exact pads_occurrences outer valid (embedded schema) fits
  | many schema => exact pads_occurrences outer valid (embedded schema) fits

/-- What is written for a message is its own padding. -/
theorem Schema.pads_write (schema outer : Schema) (wellNumbered : schema.wellNumbered = true)
    (record : schema.Record) (fits : (schema.write record).length < wireBound) :
    Pads outer (schema.write record) (schema.write record) := by
  cases schema with
  | done => exact .nil
  | field number name kind rest =>
      obtain ⟨valid, -, -, restNumbered⟩ := Schema.wellNumbered_field wellNumbered
      change (Field.write number kind record.1 ++ rest.write record.2).length < wireBound at fits
      rw [List.length_append] at fits
      exact (kind.pads_write outer valid record.1 (by omega)).append
        (rest.pads_write outer restNumbered record.2 (by omega))

/-! ## The messages of the runtime -/

/-- Bytes that a runtime with more fields may send for a message. -/
structure SkipsForeign (schema : Schema) (record : schema.Record) : Prop where
  /-- There may be foreign fields wherever one field of the message ends and another begins. -/
  fields : (schema.write record).length < wireBound →
    Pads schema (schema.write record) (schema.write record)
  /-- They are read as the message, as the bytes without foreign fields are. -/
  padded : ∀ padded, Pads schema (schema.write record) padded → padded.length < wireBound →
    schema.read? padded = some record ∧ schema.read? (schema.write record) = some record

/-- Every message of the runtime is read from what is written for it, whatever fields are
there besides its own. -/
theorem skips_foreign {name : String} {schema : Schema}
    (declared : (name, schema) ∈ Inventory.Messages.messages) (record : schema.Record) :
    SkipsForeign schema record := by
  have messages : ∀ entry ∈ Inventory.Messages.messages,
      entry.2.depth < deepestNesting ∧ entry.2.wellNumbered = true ∧ entry.2.exact = true := by
    decide +kernel
  obtain ⟨deep, wellNumbered, exact⟩ := messages _ declared
  refine ⟨fun fits => schema.pads_write schema wellNumbered record fits,
    fun padded pads fits => ?_⟩
  have plainFits := Nat.lt_of_le_of_lt pads.length_le fits
  have read := schema.read?_write (Nat.le_of_lt deep) wellNumbered record plainFits
  rw [Schema.canonical_of_exact exact, id_eq] at read
  exact ⟨(pads.read? deep fits).trans read, read⟩

section Witness

open Inventory.Messages

/-- A sandbox with a name, which is all that is known of it but for when it was created. -/
def namedSandbox : podSandbox.Record := ("p", some ("n", "", "", 0, ()), 0, 7, ())

theorem isVarint_byte {byte : UInt8} (small : byte.toNat < 128) : IsVarint [byte] byte.toNat where
  groups := .last small
  short := Nat.succ_le_succ (Nat.zero_le 9)
  small := Nat.lt_trans small (by decide)

theorem isField_byte {number : Nat} {wire : Wire} {key : UInt8} {payload : List UInt8}
    (valid : IsFieldNumber number) (small : key.toNat < 128)
    (spells : key.toNat = 8 * number + wire.code) (isPayload : IsPayload wire payload) :
    IsField number (key :: payload) := by
  have lead := isVarint_byte small
  rw [spells] at lead
  exact .mk valid lead isPayload

theorem isPayload_byte {size : UInt8} {payload : List UInt8} (small : size.toNat < 128)
    (length : size.toNat = payload.length) : IsPayload .delimited (size :: payload) := by
  have lead := isVarint_byte small
  rw [length] at lead
  exact .delimited lead

/-- The runtime also sends labels of the sandbox, something about its name, and two more
fields, one of them with a zero that is spelled at length. -/
theorem skips_foreign_namedSandbox :
    ("PodSandbox", podSandbox) ∈ messages ∧
      podSandbox.write namedSandbox = [0x0A, 1, 0x70] ++ [0x12, 3, 0x0A, 1, 0x6E] ++ [0x20, 7] ∧
      podSandbox.read?
          ([0x0A, 1, 0x70] ++ [0x2A, 2, 8, 1] ++
            [0x12, 8, 0x0A, 1, 0x6E, 0x4D, 0xFF, 0xFF, 0xFF, 0xFF] ++
            [0x79, 0, 1, 2, 3, 4, 5, 6, 7] ++ [0x20, 7] ++ [0x30, 0x80, 0]) =
        some namedSandbox := by
  have declared : ("PodSandbox", podSandbox) ∈ messages := by simp [messages]
  have written : podSandbox.write namedSandbox =
      [0x0A, 1, 0x70] ++ [0x12, 3, 0x0A, 1, 0x6E] ++ [0x20, 7] := by decide +kernel
  have name : IsField 1 [0x0A, 1, 0x6E] :=
    isField_byte (by decide) (by decide) rfl (isPayload_byte (by decide) rfl)
  have hash : IsField 9 [0x4D, 0xFF, 0xFF, 0xFF, 0xFF] :=
    isField_byte (by decide) (by decide) rfl (.fixed32 rfl)
  have id : IsField 1 [0x0A, 1, 0x70] :=
    isField_byte (by decide) (by decide) rfl (isPayload_byte (by decide) rfl)
  have labels : IsField 5 [0x2A, 2, 8, 1] :=
    isField_byte (by decide) (by decide) rfl (isPayload_byte (by decide) rfl)
  have stamp : IsField 15 [0x79, 0, 1, 2, 3, 4, 5, 6, 7] :=
    isField_byte (by decide) (by decide) rfl (.fixed64 rfl)
  have created : IsField 4 [0x20, 7] :=
    isField_byte (by decide) (by decide) rfl (.varint (isVarint_byte (by decide)))
  have zero : IsVarint [0x80, 0] 0 :=
    ⟨@IsGroups.more 0x80 [0] 0 (by decide) (.last (by decide)), by decide, by decide⟩
  have handler : IsField 6 [0x30, 0x80, 0] :=
    isField_byte (by decide) (by decide) rfl (.varint zero)
  have inside : Pads podSandboxMetadata [0x0A, 1, 0x6E]
      [0x0A, 1, 0x6E, 0x4D, 0xFF, 0xFF, 0xFF, 0xFF] :=
    .kept name (.foreign (by decide : 9 ∉ podSandboxMetadata.numbers) hash .nil)
  have last : Pads podSandbox [0x20, 7] ([0x20, 7] ++ [0x30, 0x80, 0]) :=
    .kept created (.foreign (by decide : 6 ∉ podSandbox.numbers) handler .nil)
  have behind : Pads podSandbox [0x20, 7]
      ([0x79, 0, 1, 2, 3, 4, 5, 6, 7] ++ ([0x20, 7] ++ [0x30, 0x80, 0])) :=
    .foreign (by decide : 15 ∉ podSandbox.numbers) stamp last
  have nested := Pads.within (.inl rfl : podSandbox.kind? 2 = some (.one podSandboxMetadata) ∨ _)
    (by decide) inside behind
  have pads := Pads.kept id (.foreign (by decide : 5 ∉ podSandbox.numbers) labels nested)
  have lengths : writeKey 2 .delimited = [0x12] ∧ writeVarint 3 = [3] ∧ writeVarint 8 = [8] := by
    decide +kernel
  obtain ⟨key, three, eight⟩ := lengths
  simp only [writeDelimited, List.length_cons, List.length_nil, Nat.reduceAdd, key, three,
    eight] at pads
  have padded := (skips_foreign declared namedSandbox).padded
  rw [written] at padded
  exact ⟨declared, written, (padded _ pads (by decide)).1⟩

end Witness

end NodeTelemetry.Protobuf
