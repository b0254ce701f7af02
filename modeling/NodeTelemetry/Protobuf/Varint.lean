/-
# Variable-length integers and field keys

An unsigned 64-bit number is written in groups of seven bits, the lowest group
first, with the top bit of a byte set when another group follows. Ten groups hold
64 bits, so the tenth byte is at most one and no byte follows it; shorter numbers
may still be written with more groups than they need. A field key is such a number
below `2 ^ 32`: a field number above zero, and in its lowest three bits how the
payload is delimited.
-/

namespace NodeTelemetry.Protobuf

/-- Write a number; below `2 ^ 64` this takes at most ten bytes. -/
def writeVarint (n : Nat) : List UInt8 :=
  if n < 128 then [UInt8.ofNat n] else UInt8.ofNat (n % 128 + 128) :: writeVarint (n / 128)
termination_by n

/-- Position of the last byte that a number may use. -/
def lastPosition : Nat := 9

/-- Read the groups from `position` on. -/
def readVarintFrom (position : Nat) : List UInt8 → Option (Nat × List UInt8)
  | [] => none
  | byte :: rest =>
    if byte.toNat < 128 then
      if position = lastPosition ∧ 1 < byte.toNat then none else some (byte.toNat, rest)
    else if position = lastPosition then none
    else (readVarintFrom (position + 1) rest).map fun (high, after) =>
      (byte.toNat - 128 + 128 * high, after)

/-- Read a number and return the bytes after it. -/
def readVarint (bytes : List UInt8) : Option (Nat × List UInt8) :=
  readVarintFrom 0 bytes

/-- How the payload of a field is delimited. -/
inductive Wire where
  | varint
  | fixed64
  | delimited
  | groupStart
  | groupEnd
  | fixed32
  deriving DecidableEq, Repr

def Wire.code : Wire → Nat
  | .varint => 0
  | .fixed64 => 1
  | .delimited => 2
  | .groupStart => 3
  | .groupEnd => 4
  | .fixed32 => 5

def Wire.ofCode? : Nat → Option Wire
  | 0 => some .varint
  | 1 => some .fixed64
  | 2 => some .delimited
  | 3 => some .groupStart
  | 4 => some .groupEnd
  | 5 => some .fixed32
  | _ => none

@[simp] theorem Wire.ofCode?_code (wire : Wire) : Wire.ofCode? wire.code = some wire := by
  cases wire <;> rfl

/-- Write a field key. -/
def writeKey (number : Nat) (wire : Wire) : List UInt8 :=
  writeVarint (8 * number + wire.code)

/-- Read a field key. -/
def readKey (bytes : List UInt8) : Option (Nat × Wire × List UInt8) := do
  let (key, rest) ← readVarint bytes
  if 0x100000000 ≤ key then none
  let wire ← Wire.ofCode? (key % 8)
  if key / 8 = 0 then none
  return (key / 8, wire, rest)

/-- The first `count` bytes and the bytes after them, if there are that many. -/
def splitAt? (count : Nat) (bytes : List UInt8) : Option (List UInt8 × List UInt8) :=
  if bytes.length < count then none else some (bytes.take count, bytes.drop count)

/-- Write a payload with its length in front. -/
def writeDelimited (payload : List UInt8) : List UInt8 :=
  writeVarint payload.length ++ payload

/-- Read a payload with its length in front. -/
def readDelimited (bytes : List UInt8) : Option (List UInt8 × List UInt8) := do
  let (count, rest) ← readVarint bytes
  splitAt? count rest

/-- Skip the fields of a group up to the end mark with the group's own number. -/
def skipGroup (skipField : Nat → Wire → List UInt8 → Option (List UInt8)) (number : Nat) :
    Nat → List UInt8 → Option (List UInt8)
  | 0, _ => none
  | fuel + 1, bytes => do
    let (inner, wire, rest) ← readKey bytes
    if wire = .groupEnd then
      if inner = number then some rest else none
    else
      let after ← skipField inner wire rest
      skipGroup skipField number fuel after

/-- Skip the payload of a field whose number is not known. `budget` bounds how deep
groups nest; an end mark outside a group is an error. -/
def skipField : Nat → Nat → Wire → List UInt8 → Option (List UInt8)
  | 0, _, _, _ => none
  | budget + 1, number, wire, bytes =>
    match wire with
    | .varint => (readVarint bytes).map (·.2)
    | .fixed64 => (splitAt? 8 bytes).map (·.2)
    | .delimited => (readDelimited bytes).map (·.2)
    | .groupStart => skipGroup (skipField budget) number (bytes.length + 1) bytes
    | .groupEnd => none
    | .fixed32 => (splitAt? 4 bytes).map (·.2)

end NodeTelemetry.Protobuf
