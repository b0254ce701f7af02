/-
# Bytes as hexadecimal digits

Every byte is two digits, the higher one first. Written digits are in lower case; digits
of either case are read.
-/

namespace NodeTelemetry.Text

/-- The value of a hexadecimal digit. -/
def hexDigit? (c : Char) : Option Nat :=
  if '0' ≤ c && c ≤ '9' then some (c.toNat - 48)
  else if 'a' ≤ c && c ≤ 'f' then some (c.toNat - 87)
  else if 'A' ≤ c && c ≤ 'F' then some (c.toNat - 55)
  else none

/-- The digits of a byte. -/
def hexOfByte (byte : UInt8) : List Char :=
  [Nat.digitChar (byte.toNat / 16), Nat.digitChar (byte.toNat % 16)]

/-- The digits of bytes. -/
def hexOfBytes (bytes : List UInt8) : String := String.ofList (bytes.flatMap hexOfByte)

/-- The bytes that digits stand for. -/
def bytesOfHex? : List Char → Option (List UInt8)
  | [] => some []
  | [_] => none
  | high :: low :: rest => do
    return UInt8.ofNat ((← hexDigit? high) * 16 + (← hexDigit? low)) :: (← bytesOfHex? rest)

end NodeTelemetry.Text
