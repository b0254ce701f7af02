/-
# IPv6 addresses

An address is eight pieces of up to four hexadecimal digits with colons between them. Two
colons stand for one or more pieces that are zero, and may be used once. The last two
pieces may be written as an IPv4 address in four decimal numbers.
-/

import NodeTelemetry.Text.Blank
import NodeTelemetry.Text.Hex

namespace NodeTelemetry.Url.Ipv6

/-- A piece in hexadecimal digits. -/
def piece? (text : List Char) : Option Nat :=
  if text.isEmpty || 4 < text.length then none
  else text.foldlM (fun n c => (Text.hexDigit? c).map fun digit => 16 * n + digit) 0

/-- A number below 256 in decimal digits, without zeros in front. -/
def byte? (text : List Char) : Option Nat :=
  if text.isEmpty || 3 < text.length || !text.all Char.isDigit then none
  else if text.head? == some '0' && text.length ≠ 1 then none
  else
    let n := text.foldl (fun n c => 10 * n + (c.toNat - 48)) 0
    if n < 256 then some n else none

/-- Two pieces that are written as four numbers. -/
def dotted? (text : List Char) : Option (List Nat) := do
  let [a, b, c, d] ← (Text.splitWhere (· == '.') text).mapM byte? | none
  return [256 * a + b, 256 * c + d]

/-- Pieces with colons between them. The last one may be dotted where the address ends. -/
def pieces? (atEnd : Bool) (text : List Char) : Option (List Nat) :=
  if text.isEmpty then some []
  else
    let parts := Text.splitWhere (· == ':') text
    match parts.getLast? with
    | none => none
    | some last => do
      let start ← parts.dropLast.mapM piece?
      let rest ← if atEnd && last.contains '.' then dotted? last else (piece? last).map ([·])
      return start ++ rest

/-- Split at the first two colons. -/
def splitGap : List Char → Option (List Char × List Char)
  | ':' :: ':' :: rest => some ([], rest)
  | c :: rest => (splitGap rest).map fun (before, after) => (c :: before, after)
  | [] => none

/-- Read an address as its pieces. -/
def read? (text : List Char) : Option (List Nat) :=
  match splitGap text with
  | none => do
    let pieces ← pieces? true text
    if pieces.length = 8 then return pieces else none
  | some (before, after) => do
    let first ← pieces? false before
    let last ← pieces? true after
    if first.length + last.length < 8 then
      return first ++ List.replicate (8 - first.length - last.length) 0 ++ last
    else none

end NodeTelemetry.Url.Ipv6
