import SocketMetrics.Number.Notation
import SocketMetrics.Settings
/-!
Writing settings as a JSON object, one member a line. Only the quote, the backslash and control
characters are escaped; a number that is not finite has no form of its own and becomes null.
-/

set_option autoImplicit false
set_option relaxedAutoImplicit false

namespace SocketMetrics.Json

open Number

/-- Numbers in JSON: in full between the sixteenth place in front of the point and the fifth behind
it, otherwise with a signed power of ten. -/
def numberNotation : Notation where
  tie := .toEven
  spelledOut := some (-5, 15)
  pointZero := true
  exponentPlus := true
  nan := "null".toList
  negativeNan := "null".toList
  infinity := "null".toList
  negativeInfinity := "null".toList

/-- A character as it appears in a string. -/
def escape (c : Char) : Text :=
  match c with
  | '"' => ['\\', '"']
  | '\\' => ['\\', '\\']
  | '\x08' => ['\\', 'b']
  | '\x0c' => ['\\', 'f']
  | '\n' => ['\\', 'n']
  | '\r' => ['\\', 'r']
  | '\t' => ['\\', 't']
  | _ =>
    if c.toNat < 0x20 then
      ['\\', 'u', '0', '0', Nat.digitChar (c.toNat / 16), Nat.digitChar (c.toNat % 16)]
    else [c]

/-- A string. -/
def quote (text : Text) : Text :=
  '"' :: text.flatMap escape ++ ['"']

/-- A value. -/
def valueText : Setting → Text
  | .absent => "null".toList
  | .number value => numberNotation.write value
  | .count value => decimal value.toNat
  | .text value => quote value

/-- A member of the object. -/
def memberText (name : Text) (value : Setting) : Text :=
  "\n  ".toList ++ quote name ++ ": ".toList ++ valueText value

/-- The object that holds the settings. -/
def write (settings : Settings) : Text :=
  let members := settings.map fun (name, value) ↦ memberText name value
  '{' :: [','].intercalate members ++ ['\n', '}']

end SocketMetrics.Json
