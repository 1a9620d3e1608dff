import ControllerHost.Text.Printable
import ControllerHost.Text.Utf8

/-!
# Quoted texts in diagnostics

A diagnostic that names a path puts it between double quotes and escapes what would not show.

- `Quoted.escape`: how one character is written.
- `Quoted.quote`: a byte string between quotes. Bytes that are no text are written in hexadecimal.
-/

namespace ControllerHost.Quoted

/-- The digits of a number in base 16, at least `width` of them. -/
def hex (number width : Nat) (upper : Bool) : String :=
  let digits := (Nat.toDigits 16 number).map fun c => if upper then c.toUpper else c
  String.ofList (List.replicate (width - digits.length) '0' ++ digits)

/-- How a character is written between quotes. -/
def escape (c : Char) : String :=
  if c = '\x00' then "\\0"
  else if c = '\t' then "\\t"
  else if c = '\r' then "\\r"
  else if c = '\n' then "\\n"
  else if c = '\x27' then "\\'"
  else if c = '"' then "\\\""
  else if c = '\\' then "\\\\"
  else if Printable.isPrintable c then c.toString
  else "\\u\x7b" ++ hex c.toNat 1 false ++ "\x7d"

/-- How a segment of a byte string is written between quotes. -/
def escapeSegment : Utf8.Segment → String
  | .char c => escape c
  | .broken bytes => String.join (bytes.map fun byte => "\\x" ++ hex byte.toNat 2 true)

/-- A byte string between quotes. -/
def quote (bytes : Bytes) : String :=
  "\"" ++ String.join ((Utf8.segments bytes).map escapeSegment) ++ "\""

end ControllerHost.Quoted
