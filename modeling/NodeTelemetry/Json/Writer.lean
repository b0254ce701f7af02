/-
# Writing JSON text

The compact form: no blanks, members in the order of the tree. Quotes, backslashes
and control characters are escaped, everything else is written as it is. A double
that is a whole number keeps one decimal, so that it reads back as a double.
-/

import NodeTelemetry.Json.Value
import NodeTelemetry.Number.Shortest

namespace NodeTelemetry.Json

/-- A character inside a quoted text. -/
def escape (c : Char) : List Char :=
  match c with
  | '"' => ['\\', '"']
  | '\\' => ['\\', '\\']
  | '\n' => ['\\', 'n']
  | '\r' => ['\\', 'r']
  | '\t' => ['\\', 't']
  | '\x08' => ['\\', 'b']
  | '\x0c' => ['\\', 'f']
  | c =>
    if c.toNat < 0x20 then
      '\\' :: 'u' :: '0' :: '0' ::
        [Nat.digitChar (c.toNat / 16), Nat.digitChar (c.toNat % 16)]
    else [c]

def quote (text : String) : String :=
  String.ofList ('"' :: text.toList.flatMap escape ++ ['"'])

/-- A double with a point or an exponent sign of being no whole number. -/
def realText (x : Binary64) : String :=
  let text := x.toDecimalText
  if text.toList.all fun c => c.isDigit || c == '-' then text ++ ".0" else text

mutual

/-- The compact text of a tree; what no reader accepts is written as null. -/
def render : Json → String
  | .null => "null"
  | .bool value => if value then "true" else "false"
  | .whole value => toString value
  | .real value => realText value
  | .text value => quote value
  | .list items => "[" ++ renderItems items ++ "]"
  | .object members => "\x7b" ++ renderMembers members ++ "\x7d"
  | .unreadable => "null"

def renderItems : List Json → String
  | [] => ""
  | [last] => render last
  | item :: rest => render item ++ "," ++ renderItems rest

def renderMembers : List (String × Json) → String
  | [] => ""
  | [(name, value)] => quote name ++ ":" ++ render value
  | (name, value) :: rest => quote name ++ ":" ++ render value ++ "," ++ renderMembers rest

end

end NodeTelemetry.Json
