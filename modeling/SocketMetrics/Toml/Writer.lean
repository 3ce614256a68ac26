import SocketMetrics.Number.Notation
import SocketMetrics.Settings
/-!
Writing settings as TOML, one line for each that is not absent. Text stands between single quotes,
or between three of them where it holds a quote or a line feed; where it holds a control character
or too many quotes, it is escaped between double quotes.
-/

set_option autoImplicit false
set_option relaxedAutoImplicit false

namespace SocketMetrics.Toml

open Number

/-- Numbers in TOML: always in full, and never without a point. -/
def numberNotation : Notation where
  tie := .upward
  spelledOut := none
  pointZero := true
  exponentPlus := false
  nan := "nan".toList
  negativeNan := "-nan".toList
  infinity := "inf".toList
  negativeInfinity := "-inf".toList

/-- Whether a character cannot stand between single quotes. -/
def needsEscape (c : Char) : Bool :=
  (c.toNat < 0x20 && c != '\t' && c != '\n') || c.toNat == 0x7f

/-- Whether a text holds three single quotes in a row. -/
def hasTripleQuote : Text → Bool
  | '\'' :: '\'' :: '\'' :: _ => true
  | _ :: rest => hasTripleQuote rest
  | [] => false

/-- Whether a text can stand between single quotes: three quotes in a row would end it, and so
would one at its end. -/
def isLiteral (text : Text) : Bool :=
  !text.any needsEscape && !hasTripleQuote text && text.getLast? != some '\''

/-- A character as it appears between double quotes. -/
def escape (multiline : Bool) (c : Char) : Text :=
  match c with
  | '\x08' => ['\\', 'b']
  | '\t' => ['\\', 't']
  | '\n' => if multiline then ['\n'] else ['\\', 'n']
  | '\x0c' => ['\\', 'f']
  | '\r' => ['\\', 'r']
  | '"' => ['\\', '"']
  | '\\' => ['\\', '\\']
  | _ =>
    if c.toNat < 0x20 || c.toNat == 0x7f then
      ['\\', 'u', '0', '0', (Nat.digitChar (c.toNat / 16)).toUpper,
        (Nat.digitChar (c.toNat % 16)).toUpper]
    else [c]

/-- Text as a string. -/
def quote (text : Text) : Text :=
  let multiline := text.contains '\n'
  if isLiteral text then
    if multiline then "'''\n".toList ++ text ++ "'''".toList
    else if text.contains '\'' then "'''".toList ++ text ++ "'''".toList
    else '\'' :: text ++ ['\'']
  else
    let escaped := text.flatMap (escape multiline)
    if multiline then "\"\"\"\n".toList ++ escaped ++ "\"\"\"".toList
    else '"' :: escaped ++ ['"']

/-- A value, unless it is absent. -/
def valueText? : Setting → Option Text
  | .absent => none
  | .number value => some (numberNotation.write value)
  | .count value => some (decimal value.toNat)
  | .text value => some (quote value)

/-- The lines of the settings. -/
def write (settings : Settings) : Text :=
  settings.flatMap fun (name, value) ↦
    match valueText? value with
    | none => []
    | some text => name ++ " = ".toList ++ text ++ ['\n']

end SocketMetrics.Toml
