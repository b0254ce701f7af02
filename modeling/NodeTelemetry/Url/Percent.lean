/-
# Percent signs

A percent sign with two hexadecimal digits behind it stands for a byte. Any other
character stands for the bytes of its UTF-8 form.
-/

import NodeTelemetry.Text.Hex

namespace NodeTelemetry.Url

/-- The bytes that a text stands for. -/
def bytesOf : List Char → List UInt8
  | '%' :: high :: low :: rest =>
    match Text.hexDigit? high, Text.hexDigit? low with
    | some first, some second => UInt8.ofNat (16 * first + second) :: bytesOf rest
    | _, _ => 37 :: bytesOf (high :: low :: rest)
  | c :: rest => String.utf8EncodeChar c ++ bytesOf rest
  | [] => []
termination_by text => text.length

/-- The text that a text with percent signs stands for, if its bytes are the UTF-8 form of
one. -/
def percentDecode? (text : List Char) : Option (List Char) :=
  if text.contains '%' then
    (String.fromUTF8? ⟨(bytesOf text).toArray⟩).map String.toList
  else some text

end NodeTelemetry.Url
