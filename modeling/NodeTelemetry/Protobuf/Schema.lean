/-
# Messages described by schemas

A schema lists the fields of a message in the order of their numbers. The records of
a schema are tuples with one entry for each field, so a schema is at once the type of
its messages and the program that writes and reads them. Five kinds of fields occur:
plain scalars, which are left out at their default; optional scalars and embedded
messages, whose presence is kept even at the default; and repeated texts and
messages.

Reading starts from the record of defaults and takes the fields in any order. A later
scalar replaces an earlier one, embedded messages of one field are merged, repeated
fields are appended, and fields that the schema does not list are skipped. The number
`budget` bounds how deep messages and groups nest.
-/

import NodeTelemetry.Protobuf.Scalar

namespace NodeTelemetry.Protobuf

mutual

/-- What a field holds. -/
inductive Field where
  /-- Left out at the default. -/
  | plain (scalar : Scalar)
  /-- Present or absent, also at the default. -/
  | optional (scalar : Scalar)
  | texts
  /-- At most one embedded message. -/
  | one (schema : Schema)
  /-- Any number of embedded messages. -/
  | many (schema : Schema)

/-- The fields of a message, by number. -/
inductive Schema where
  | done
  | field (number : Nat) (name : String) (kind : Field) (rest : Schema)

end

mutual

/-- Values of a field. -/
@[reducible] def Field.Value : Field → Type
  | .plain scalar => scalar.Value
  | .optional scalar => Option scalar.Value
  | .texts => List String
  | .one schema => Option schema.Record
  | .many schema => List schema.Record

/-- Messages of a schema: one entry for each field. -/
@[reducible] def Schema.Record : Schema → Type
  | .done => Unit
  | .field _ _ kind rest => kind.Value × rest.Record

end

/-- The value of a field that is not on the wire. -/
def Field.empty : (field : Field) → field.Value
  | .plain scalar => scalar.default
  | .optional _ => none
  | .texts => []
  | .one _ => none
  | .many _ => []

/-- The message with nothing on the wire. -/
def Schema.empty : (schema : Schema) → schema.Record
  | .done => ()
  | .field _ _ kind rest => (kind.empty, rest.empty)

/-- Is the value that of a field that is not on the wire, as numbers are compared? -/
def Field.isEmpty : (field : Field) → field.Value → Bool
  | .plain scalar, value => scalar.isDefault value
  | .optional _, value => value.isNone
  | .texts, value => value.isEmpty
  | .one _, value => value.isNone
  | .many _, value => value.isEmpty

/-- Does the message equal the one with nothing on the wire? -/
def Schema.isEmpty : (schema : Schema) → schema.Record → Bool
  | .done, _ => true
  | .field _ _ kind rest, (value, others) => kind.isEmpty value && rest.isEmpty others

/-- The numbers of the fields, in order. -/
def Schema.numbers : Schema → List Nat
  | .done => []
  | .field number _ _ rest => number :: rest.numbers

mutual

/-- Write a field under its number. -/
def Field.write (number : Nat) : (field : Field) → field.Value → List UInt8
  | .plain scalar, value =>
    if scalar.isDefault value then [] else writeKey number scalar.wire ++ scalar.write value
  | .optional scalar, value =>
    match value with
    | none => []
    | some present => writeKey number scalar.wire ++ scalar.write present
  | .texts, values =>
    List.flatMap (fun value => writeKey number .delimited ++ Scalar.write .text value) values
  | .one schema, value =>
    match value with
    | none => []
    | some present => writeKey number .delimited ++ writeDelimited (schema.write present)
  | .many schema, values =>
    List.flatMap (fun value => writeKey number .delimited ++ writeDelimited (schema.write value))
      values

/-- Write a message: its fields in order. -/
def Schema.write : (schema : Schema) → schema.Record → List UInt8
  | .done, _ => []
  | .field number _ kind rest, record =>
    Field.write number kind record.1 ++ Schema.write rest record.2

end

/-- Read fields until the bytes are used up, starting from `record`. Each field takes
at least the byte of its key, so `fuel` is at most the number of bytes. -/
def mergeFields {α : Type}
    (mergeField : Nat → Wire → List UInt8 → α → Option (α × List UInt8)) :
    Nat → List UInt8 → α → Option α
  | _, [], record => some record
  | 0, _ :: _, _ => none
  | fuel + 1, bytes, record => do
    let (number, wire, rest) ← readKey bytes
    let (merged, after) ← mergeField number wire rest record
    mergeFields mergeField fuel after merged

/-- Read an embedded message on top of `record`. -/
def mergeEmbedded {α : Type}
    (mergeField : Nat → Wire → List UInt8 → α → Option (α × List UInt8))
    (bytes : List UInt8) (record : α) : Option (α × List UInt8) := do
  let (payload, rest) ← readDelimited bytes
  let merged ← mergeFields mergeField payload.length payload record
  return (merged, rest)

mutual

/-- Read the payload of a field on top of the value it has so far. A wire form other
than the field's own is an error. -/
def Field.merge : (field : Field) → (budget : Nat) → Wire → List UInt8 → field.Value →
    Option (field.Value × List UInt8)
  | .plain scalar, _, wire, bytes, _ =>
    if wire = scalar.wire then scalar.read bytes else none
  | .optional scalar, _, wire, bytes, _ =>
    if wire = scalar.wire then
      (scalar.read bytes).map fun (value, rest) => (some value, rest)
    else none
  | .texts, _, wire, bytes, values =>
    if wire = .delimited then
      (Scalar.read .text bytes).map fun (value, rest) => (List.append values [value], rest)
    else none
  | .one _, 0, _, _, _ => none
  | .one schema, budget + 1, wire, bytes, value =>
    if wire = .delimited then
      (mergeEmbedded (schema.mergeField budget) bytes (Option.getD value schema.empty)).map
        fun (merged, rest) => (some merged, rest)
    else none
  | .many _, 0, _, _, _ => none
  | .many schema, budget + 1, wire, bytes, values =>
    if wire = .delimited then
      (mergeEmbedded (schema.mergeField budget) bytes schema.empty).map
        fun (merged, rest) => (List.append values [merged], rest)
    else none

/-- Read one field of a message: the field with the given number, or none of them. -/
def Schema.mergeField : (schema : Schema) → (budget : Nat) → (number : Nat) → Wire →
    List UInt8 → schema.Record → Option (schema.Record × List UInt8)
  | .done, budget, number, wire, bytes, record =>
    (skipField budget number wire bytes).map fun rest => (record, rest)
  | .field own _ kind rest, budget, number, wire, bytes, record =>
    if own = number then
      (kind.merge budget wire bytes record.1).map fun (value, after) => ((value, record.2), after)
    else
      (rest.mergeField budget number wire bytes record.2).map fun (others, after) =>
        ((record.1, others), after)

end

/-- How deep messages and groups may nest. -/
def deepestNesting : Nat := 100

/-- Read a message that takes up all the bytes. -/
def Schema.read? (schema : Schema) (bytes : List UInt8) : Option schema.Record :=
  mergeFields (schema.mergeField deepestNesting) bytes.length bytes schema.empty

end NodeTelemetry.Protobuf
