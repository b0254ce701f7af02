/-
# Doubles on the wire

A plain double is left out if it is one of the two zeros, and what is left out is read as
the positive one. This is all that a message can lose: whatever message of the runtime or
of the relay is written, it is read again, and it is the same up to the signs of zeros in
plain doubles. Infinities and NaNs come back with all their bits.
-/

import NodeTelemetry.Inventory.Messages
import NodeTelemetry.Relay.Messages
import NodeTelemetry.Proofs.Protobuf.RoundTrip

namespace NodeTelemetry

/-- A zero without its sign, and any other datum as it is. -/
def Binary64.unsignedZero (x : Binary64) : Binary64 := if x.isZero then zero else x

namespace Protobuf

/-! ## Plain doubles -/

section Change

variable (change : Binary64 → Binary64)

def Scalar.mapDouble : (scalar : Scalar) → scalar.Value → scalar.Value
  | .double, value => change value
  | .text, value => value
  | .uint64, value => value
  | .uint32, value => value
  | .int64, value => value
  | .enumeration, value => value

mutual

/-- Change the plain doubles in the value of a field. -/
def Field.mapDoubles : (field : Field) → field.Value → field.Value
  | .plain scalar, value => scalar.mapDouble change value
  | .optional _, value => value
  | .texts, values => values
  | .one schema, value => Option.map schema.mapDoubles value
  | .many schema, values => List.map schema.mapDoubles values

/-- Change the plain doubles in a message and in the messages in it. -/
def Schema.mapDoubles : (schema : Schema) → schema.Record → schema.Record
  | .done, _ => ()
  | .field _ _ kind rest, record => (kind.mapDoubles record.1, rest.mapDoubles record.2)

end

end Change

/-- Only a double has a default that differs from another value that is left out. -/
theorem Field.canonical_plain (scalar : Scalar) :
    (Field.plain scalar).canonical = scalar.mapDouble Binary64.unsignedZero := by
  cases scalar with
  | double => rfl
  | _ => exact Field.canonical_of_exact rfl

mutual

theorem Field.canonical_eq_mapDoubles (field : Field) :
    field.canonical = field.mapDoubles Binary64.unsignedZero := by
  funext value
  cases field with
  | plain scalar => exact congrFun (Field.canonical_plain scalar) value
  | optional scalar => rfl
  | texts => rfl
  | one schema =>
      change Option.map schema.canonical value = Option.map _ value
      rw [schema.canonical_eq_mapDoubles]
  | many schema =>
      change List.map schema.canonical value = List.map _ value
      rw [schema.canonical_eq_mapDoubles]

/-- A message that is brought back has lost the signs of its zeros and nothing else. -/
theorem Schema.canonical_eq_mapDoubles (schema : Schema) :
    schema.canonical = schema.mapDoubles Binary64.unsignedZero := by
  funext record
  cases schema with
  | done => rfl
  | field number name kind rest =>
      change (kind.canonical record.1, rest.canonical record.2) = (_, _)
      rw [kind.canonical_eq_mapDoubles, rest.canonical_eq_mapDoubles]

end

/-! ## The messages of the runtime and of the relay -/

/-- All messages that are exchanged, by name. -/
def declaredMessages : List (String × Schema) :=
  Inventory.Messages.messages ++ Relay.Messages.messages

/-- No message nests too deep to be read, and each of its fields has a number of its own. -/
theorem readable_declared {entry : String × Schema} (declared : entry ∈ declaredMessages) :
    entry.2.depth ≤ deepestNesting ∧ entry.2.wellNumbered = true := by
  have readable : ∀ entry ∈ declaredMessages,
      entry.2.depth ≤ deepestNesting ∧ entry.2.wellNumbered = true := by
    decide +kernel
  exact readable entry declared

/-- Every message is read again as it was written, except that zeros in plain doubles have
lost their signs. A message longer than any memory has no length that could be written. -/
theorem read?_write_declared {name : String} {schema : Schema}
    (declared : (name, schema) ∈ declaredMessages) (record : schema.Record)
    (fits : (schema.write record).length < wireBound) :
    schema.read? (schema.write record) =
      some (schema.mapDoubles Binary64.unsignedZero record) := by
  obtain ⟨deep, wellNumbered⟩ := readable_declared declared
  rw [schema.read?_write deep wellNumbered record fits, schema.canonical_eq_mapDoubles]

/-- Pressure with a negative zero, a NaN that is not the usual one, and a second line that
is there although all of it is at the defaults. -/
def uneasyPressure : Relay.Messages.psiMetrics.Record :=
  (some (⟨0x8000000000000000⟩, ⟨0xFFF0000000000001⟩, .one, 0xFFFFFFFFFFFFFFFF, ()),
    some (.zero, .zero, .zero, 0, ()), ())

theorem read?_write_declared_uneasyPressure :
    ("PsiMetrics", Relay.Messages.psiMetrics) ∈ declaredMessages ∧
      (Relay.Messages.psiMetrics.write uneasyPressure).length < wireBound ∧
      Relay.Messages.psiMetrics.read? (Relay.Messages.psiMetrics.write uneasyPressure) =
        some (some (.zero, ⟨0xFFF0000000000001⟩, .one, 0xFFFFFFFFFFFFFFFF, ()),
          some (.zero, .zero, .zero, 0, ()), ()) := by
  have declared : ("PsiMetrics", Relay.Messages.psiMetrics) ∈ declaredMessages := by
    simp [declaredMessages, Relay.Messages.messages]
  have fits : (Relay.Messages.psiMetrics.write uneasyPressure).length < wireBound := by
    decide +kernel
  exact ⟨declared, fits, read?_write_declared declared uneasyPressure fits⟩

end Protobuf

end NodeTelemetry
