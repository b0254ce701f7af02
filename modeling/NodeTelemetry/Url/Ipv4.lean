/-
# IPv4 addresses

An address is written as one to four numbers with points between them, in decimal, octal
or hexadecimal digits. The last number fills the bytes that the others leave. A host whose
last label is a number has to be such an address.
-/

import NodeTelemetry.Text.Blank
import NodeTelemetry.Text.Hex

namespace NodeTelemetry.Url.Ipv4

/-- The number that digits stand for, if all of them are digits in a base. -/
def digits? (base : Nat) (text : List Char) : Option Nat :=
  text.foldlM (fun n c => do
    let digit ← Text.hexDigit? c
    if digit < base then return base * n + digit else none) 0

/-- A number. Two characters choose hexadecimal digits, a zero in front octal ones. -/
def number? (text : List Char) : Option Nat :=
  match text with
  | [] => none
  | '0' :: 'x' :: rest => digits? 16 rest
  | '0' :: 'X' :: rest => digits? 16 rest
  | '0' :: c :: rest => digits? 8 (c :: rest)
  | _ => digits? 10 text

/-- The labels of a host, without an empty one at the end. -/
def labels (host : List Char) : List (List Char) :=
  let labels := Text.splitWhere (· == '.') host
  if labels.length ≠ 1 ∧ labels.getLast? = some [] then labels.dropLast else labels

/-- Whether the last label of a host is a number. -/
def endsInNumber (host : List Char) : Bool :=
  match (labels host).getLast? with
  | none => false
  | some last => (!last.isEmpty && last.all Char.isDigit) || (number? last).isSome

/-- The address that numbers stand for. -/
def ofNumbers? (numbers : List Nat) : Option Nat :=
  match numbers.reverse with
  | [] => none
  | last :: others =>
    if others.length < 4 ∧ last < Nat.pow 256 (4 - others.length) ∧ others.all (· < 256) then
      let bytes := numbers.dropLast.foldl (fun n byte => 256 * n + byte) 0
      some (bytes * Nat.pow 256 (4 - others.length) + last)
    else none

/-- Read an address. -/
def read? (host : List Char) : Option Nat := ((labels host).mapM number?).bind ofNumbers?

end NodeTelemetry.Url.Ipv4
