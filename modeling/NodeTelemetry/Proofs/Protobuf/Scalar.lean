/-
# Reading what was written: scalars

A reader gets the bytes of a scalar with whatever follows them. It gives back the value
and leaves what follows as it is, for each kind of scalar and each value of it. A text
needs a length that a number on the wire can say.
-/

import NodeTelemetry.Protobuf.Scalar

namespace NodeTelemetry.Protobuf

/-- The numbers on the wire are below this one. -/
def wireBound : Nat := 0x10000000000000000

/-! ## Numbers -/

theorem toNat_ofNat_byte {n : Nat} (small : n < 256) : (UInt8.ofNat n).toNat = n :=
  Nat.mod_eq_of_lt small

theorem writeVarint_ne_nil (n : Nat) : writeVarint n ≠ [] := by
  rw [writeVarint]
  split <;> simp

/-- Each further group may hold seven more bits, and the last one a single bit. -/
theorem readVarintFrom_writeVarint (groups : Nat) {position n : Nat}
    (place : position + groups = lastPosition) (small : n < 2 * Nat.pow 128 groups)
    (rest : List UInt8) :
    readVarintFrom position (writeVarint n ++ rest) = some (n, rest) := by
  induction groups generalizing position n with
  | zero =>
      have single : n < 2 := small
      rw [writeVarint, if_pos (by omega), List.singleton_append, readVarintFrom,
        toNat_ofNat_byte (by omega), if_pos (by omega), if_neg (by omega)]
  | succ groups ih =>
      rw [writeVarint]
      by_cases last : n < 128
      · rw [if_pos last, List.singleton_append, readVarintFrom, toNat_ofNat_byte (by omega),
          if_pos last, if_neg (by omega)]
      · have high : n / 128 < 2 * Nat.pow 128 groups := by
          have bound : n < 2 * (Nat.pow 128 groups * 128) := small
          omega
        rw [if_neg last, List.cons_append, readVarintFrom, toNat_ofNat_byte (by omega),
          if_neg (by omega), if_neg (by omega), ih (by omega) high]
        simp only [Option.map_some, Option.some.injEq, Prod.mk.injEq, and_true]
        omega

theorem readVarint_writeVarint {n : Nat} (small : n < wireBound) (rest : List UInt8) :
    readVarint (writeVarint n ++ rest) = some (n, rest) :=
  readVarintFrom_writeVarint 9 rfl small rest

/-! ## Keys and lengths -/

/-- The numbers that fields may have. -/
def IsFieldNumber (number : Nat) : Prop := 0 < number ∧ number < 0x20000000

instance (number : Nat) : Decidable (IsFieldNumber number) :=
  inferInstanceAs (Decidable (_ ∧ _))

theorem writeKey_ne_nil (number : Nat) (wire : Wire) : writeKey number wire ≠ [] :=
  writeVarint_ne_nil _

theorem Wire.code_lt (wire : Wire) : wire.code < 8 := by
  cases wire <;> decide

theorem readKey_writeKey {number : Nat} (valid : IsFieldNumber number) (wire : Wire)
    (rest : List UInt8) :
    readKey (writeKey number wire ++ rest) = some (number, wire, rest) := by
  obtain ⟨positive, small⟩ := valid
  have code := wire.code_lt
  have key : 8 * number + wire.code < 0x100000000 := by omega
  have inBound : 8 * number + wire.code < wireBound := Nat.lt_trans key (by decide)
  have low : (8 * number + wire.code) % 8 = wire.code := by omega
  have high : (8 * number + wire.code) / 8 = number := by omega
  unfold readKey writeKey
  rw [readVarint_writeVarint inBound]
  simp only [Option.bind_eq_bind, Option.bind_some, low, high, Wire.ofCode?_code,
    Nat.not_le.mpr key, Nat.ne_of_gt positive, if_false, Option.pure_def]

theorem splitAt?_append (payload rest : List UInt8) :
    splitAt? payload.length (payload ++ rest) = some (payload, rest) := by
  unfold splitAt?
  rw [if_neg (by simp), List.take_left, List.drop_left]

theorem readDelimited_writeDelimited {payload : List UInt8} (fits : payload.length < wireBound)
    (rest : List UInt8) :
    readDelimited (writeDelimited payload ++ rest) = some (payload, rest) := by
  unfold readDelimited writeDelimited
  rw [List.append_assoc, readVarint_writeVarint fits]
  exact splitAt?_append payload rest

theorem length_le_writeDelimited (payload : List UInt8) :
    payload.length ≤ (writeDelimited payload).length := by
  unfold writeDelimited
  rw [List.length_append]
  exact Nat.le_add_left _ _

/-! ## Scalars -/

namespace Scalar

theorem length_littleEndian (count n : Nat) : (littleEndian count n).length = count := by
  induction count generalizing n with
  | zero => rfl
  | succ count ih => exact congrArg Nat.succ (ih _)

theorem ofLittleEndian_littleEndian (count : Nat) {n : Nat} (small : n < Nat.pow 256 count) :
    ofLittleEndian (littleEndian count n) = n := by
  induction count generalizing n with
  | zero =>
      have zero : n < 1 := small
      change 0 = n
      omega
  | succ count ih =>
      have bound : n < Nat.pow 256 count * 256 := small
      have high : n / 256 < Nat.pow 256 count := by omega
      change (UInt8.ofNat (n % 256)).toNat + 256 * ofLittleEndian (littleEndian count (n / 256)) = n
      rw [toNat_ofNat_byte (Nat.mod_lt _ (by decide)), ih high]
      omega

theorem ofUtf8?_utf8 (text : String) : ofUtf8? (utf8 text) = some text := by
  unfold ofUtf8? utf8 String.fromUTF8?
  exact dif_pos text.isValidUTF8

/-- A narrow number is written as the 64-bit number with the same value, whose low bits
are its own. -/
theorem ofNat_toInt64 (value : Int32) :
    (UInt32.ofNat value.toInt64.toUInt64.toNat).toInt32 = value := by
  have narrow := congrArg Int32.toBitVec (Int32.toInt32_toInt64 value)
  rw [Int64.toBitVec_toInt32, BitVec.signExtend_eq_setWidth_of_le _ (by decide)] at narrow
  apply Int32.toBitVec_inj.mp
  rw [← narrow]
  apply BitVec.eq_of_toNat_eq
  simp

/-- Reading what was written gives back the value, whatever follows. -/
theorem read_write (scalar : Scalar) (value : scalar.Value)
    (fits : (scalar.write value).length < wireBound) (rest : List UInt8) :
    scalar.read (scalar.write value ++ rest) = some (value, rest) := by
  cases scalar with
  | text =>
      have short : (utf8 value).length < wireBound :=
        Nat.lt_of_le_of_lt (length_le_writeDelimited _) fits
      simp only [read, write, readDelimited_writeDelimited short, Option.bind_eq_bind,
        Option.bind_some, ofUtf8?_utf8, Option.pure_def]
  | uint64 =>
      simp only [read, write, readVarint_writeVarint (UInt64.toNat_lt value), Option.map_some,
        UInt64.ofNat_toNat]
  | uint32 =>
      have small : UInt32.toNat value < wireBound :=
        Nat.lt_trans (UInt32.toNat_lt value) (by decide)
      simp only [read, write, readVarint_writeVarint small, Option.map_some, UInt32.ofNat_toNat]
  | int64 =>
      have small := UInt64.toNat_lt (Int64.toUInt64 value)
      simp only [read, write, readVarint_writeVarint small, Option.map_some, UInt64.ofNat_toNat]
      rfl
  | enumeration =>
      have small := UInt64.toNat_lt (Int32.toInt64 value).toUInt64
      simp only [read, write, readVarint_writeVarint small, Option.map_some, ofNat_toInt64]
  | double =>
      have bits := ofLittleEndian_littleEndian 8 (UInt64.toNat_lt (Binary64.bits value))
      have split := splitAt?_append (littleEndian 8 (Binary64.bits value).toNat) rest
      rw [length_littleEndian] at split
      simp only [read, write, split, Option.map_some, bits, UInt64.ofNat_toNat]

end Scalar

end NodeTelemetry.Protobuf
