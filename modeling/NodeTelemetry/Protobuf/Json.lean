/-
# Messages as JSON

A message can be shown as an object with a member for every field, under the names of
the fields. An absent value is null. Reading is loose: a field that is missing or of
another kind is at its default. How doubles are shown is left to the caller, because
JSON has no form for some of them.
-/

import NodeTelemetry.Json.Access
import NodeTelemetry.Protobuf.Schema

namespace NodeTelemetry.Protobuf

/-- A way to show doubles and to read them. -/
structure DoubleForm where
  write : Binary64 → Json
  read : Json → Binary64

variable (form : DoubleForm)

def Scalar.toJson : (scalar : Scalar) → scalar.Value → Json
  | .text, value => .text value
  | .uint64, value => .ofUInt64 value
  | .uint32, value => .ofUInt32 value
  | .int64, value => .ofInt64 value
  | .enumeration, value => .whole (Int32.toInt value)
  | .double, value => form.write value

def Scalar.ofJson : (scalar : Scalar) → Json → scalar.Value
  | .text, json => json.toText
  | .uint64, json => UInt64.ofNat json.toNat
  | .uint32, json => UInt32.ofNat json.toNat
  | .int64, json => Int64.ofInt json.toInt
  | .enumeration, json => Int32.ofInt json.toInt
  | .double, json => (json.toOption form.read).getD Binary64.zero

mutual

def Field.toJson : (kind : Field) → kind.Value → Json
  | .plain scalar, value => scalar.toJson form value
  | .optional scalar, value => Json.ofOption (scalar.toJson form) value
  | .texts, values => .list (List.map Json.text values)
  | .one schema, value => Json.ofOption (fun present => .object (schema.members present)) value
  | .many schema, values => .list (List.map (fun value => .object (schema.members value)) values)

/-- The members of the object that shows a message. -/
def Schema.members : (schema : Schema) → schema.Record → List (String × Json)
  | .done, _ => []
  | .field _ name kind rest, record => (name, kind.toJson record.1) :: rest.members record.2

end

/-- A message as an object. -/
def Schema.toJson (schema : Schema) (record : schema.Record) : Json :=
  .object (schema.members form record)

mutual

def Field.ofJson : (kind : Field) → Json → kind.Value
  | .plain scalar, json => scalar.ofJson form json
  | .optional scalar, json => json.toOption (scalar.ofJson form)
  | .texts, json => json.items.map Json.toText
  | .one schema, json => json.toOption schema.ofJson
  | .many schema, json => json.items.map schema.ofJson

/-- The message that an object shows. -/
def Schema.ofJson : (schema : Schema) → Json → schema.Record
  | .done, _ => ()
  | .field _ name kind rest, json => (kind.ofJson (json.field name), rest.ofJson json)

end

end NodeTelemetry.Protobuf
