/-
# Scalar fields

Six kinds of scalars occur in the messages. Each has a type of values, a default that
a plain field leaves out, one way to be written and one to be read. Integers narrower
than the number on the wire keep its low bits, so a negative 32-bit number is written
as the 64-bit number it stands for, in ten bytes. A double is eight bytes, lowest
first. A text is its UTF-8 form, and bytes that are no UTF-8 are refused.
-/

import NodeTelemetry.Number.Binary64
import NodeTelemetry.Protobuf.Varint

namespace NodeTelemetry.Protobuf

/-- The kinds of scalar fields. -/
inductive Scalar where
  | text
  | uint64
  | uint32
  | int64
  | enumeration
  | double
  deriving DecidableEq, Repr

namespace Scalar

/-- Values of a scalar field. An enumeration keeps numbers that name no case. -/
@[reducible] def Value : Scalar → Type
  | .text => String
  | .uint64 => UInt64
  | .uint32 => UInt32
  | .int64 => Int64
  | .enumeration => Int32
  | .double => Binary64

/-- The value of a plain field that is not on the wire. -/
def default : (scalar : Scalar) → scalar.Value
  | .text => ""
  | .uint64 => (0 : UInt64)
  | .uint32 => (0 : UInt32)
  | .int64 => (0 : Int64)
  | .enumeration => (0 : Int32)
  | .double => Binary64.zero

/-- Values that a plain field leaves out. Both zeros of a double are left out. -/
def isDefault : (scalar : Scalar) → scalar.Value → Bool
  | .text, value => value == ""
  | .uint64, value => value == (0 : UInt64)
  | .uint32, value => value == (0 : UInt32)
  | .int64, value => value == (0 : Int64)
  | .enumeration, value => value == (0 : Int32)
  | .double, value => Binary64.isZero value

def wire : Scalar → Wire
  | .text => .delimited
  | .double => .fixed64
  | _ => .varint

/-- Eight bytes, lowest first. -/
def littleEndian : Nat → Nat → List UInt8
  | 0, _ => []
  | count + 1, n => UInt8.ofNat (n % 256) :: littleEndian count (n / 256)

def ofLittleEndian : List UInt8 → Nat
  | [] => 0
  | byte :: rest => byte.toNat + 256 * ofLittleEndian rest

/-- The UTF-8 form of a text. -/
def utf8 (text : String) : List UInt8 := text.toByteArray.data.toList

/-- The text with the given UTF-8 form. -/
def ofUtf8? (bytes : List UInt8) : Option String := String.fromUTF8? ⟨bytes.toArray⟩

/-- Payload of a field, after its key. -/
def write : (scalar : Scalar) → scalar.Value → List UInt8
  | .text, value => writeDelimited (utf8 value)
  | .uint64, value => writeVarint (UInt64.toNat value)
  | .uint32, value => writeVarint (UInt32.toNat value)
  | .int64, value => writeVarint (Int64.toUInt64 value).toNat
  | .enumeration, value => writeVarint (Int32.toInt64 value).toUInt64.toNat
  | .double, value => littleEndian 8 (Binary64.bits value).toNat

/-- Read a payload and return the bytes after it. -/
def read : (scalar : Scalar) → List UInt8 → Option (scalar.Value × List UInt8)
  | .text, bytes => do
    let (payload, rest) ← readDelimited bytes
    let text ← ofUtf8? payload
    return (text, rest)
  | .uint64, bytes => (readVarint bytes).map fun (n, rest) => (UInt64.ofNat n, rest)
  | .uint32, bytes => (readVarint bytes).map fun (n, rest) => (UInt32.ofNat n, rest)
  | .int64, bytes => (readVarint bytes).map fun (n, rest) => ((UInt64.ofNat n).toInt64, rest)
  | .enumeration, bytes =>
    (readVarint bytes).map fun (n, rest) => ((UInt32.ofNat n).toInt32, rest)
  | .double, bytes =>
    (splitAt? 8 bytes).map fun (payload, rest) =>
      (⟨UInt64.ofNat (ofLittleEndian payload)⟩, rest)

end Scalar

end NodeTelemetry.Protobuf
