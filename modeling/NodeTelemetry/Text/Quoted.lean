/-
# Quoted texts

In messages, texts from outside are put between quotes. Quotes, backslashes and line
ends are escaped; a character that could not be seen, or that would change the one
before it, is shown by its number.
-/

import NodeTelemetry.Text.Extending
import NodeTelemetry.Text.Hidden

namespace NodeTelemetry.Text

/-- The number of a character in hexadecimal digits, between braces. -/
def numbered (c : Char) : List Char :=
  ['\\', 'u', '\x7b'] ++ Nat.toDigits 16 c.toNat ++ ['\x7d']

/-- Whether a character is shown by its number. -/
def isNumbered (c : Char) : Bool := extending.contains c || hidden.contains c

/-- How a character is written between quotes. -/
def quoteChar (c : Char) : List Char :=
  match c with
  | '\x00' => ['\\', '0']
  | '\t' => ['\\', 't']
  | '\r' => ['\\', 'r']
  | '\n' => ['\\', 'n']
  | '\\' => ['\\', '\\']
  | '"' => ['\\', '"']
  | c => if isNumbered c then numbered c else [c]

/-- A text between quotes. -/
def quoted (text : String) : String :=
  String.ofList (['"'] ++ text.toList.flatMap quoteChar ++ ['"'])

end NodeTelemetry.Text
