import SocketMetrics.Number.Notation
import SocketMetrics.Settings
import SocketMetrics.Yaml.Character
import SocketMetrics.Yaml.Meaning
import SocketMetrics.Yaml.Token
/-!
Writing settings as YAML, a line for each. Text is written plainly unless it would be read as
something else then; otherwise it stands between single quotes, or below its name if it has several
lines. What none of these can hold is escaped between double quotes.
-/

set_option autoImplicit false
set_option relaxedAutoImplicit false

namespace SocketMetrics.Yaml

open Number

/-- Numbers in YAML: in full between `1e-5` and `1e16`, and never without a point there. -/
def numberNotation : Notation where
  tie := .toEven
  spelledOut := some (-5, 15)
  pointZero := true
  exponentPlus := false
  nan := ".nan".toList
  negativeNan := ".nan".toList
  infinity := ".inf".toList
  negativeInfinity := "-.inf".toList

/-- Whether the test holds for two characters in a row. -/
def hasPair (test : Char → Char → Bool) : Text → Bool
  | c :: d :: rest => test c d || hasPair test (d :: rest)
  | _ => false

/-- Whether a text has a character that cannot be written as it is. -/
def hasUnprintable (text : Text) : Bool :=
  text.any (!isPrintable ·)

/-- Whether a line ends in a space or begins with one behind another line. -/
def hasSpaceBeforeBreak (text : Text) : Bool :=
  hasPair (fun c d ↦ c == ' ' && isBreak d) text

def hasSpaceBehindBreak (text : Text) : Bool :=
  hasPair (fun c d ↦ isBreak c && d == ' ') text

/-- Whether a text begins with a mark that has a meaning of its own. -/
def beginsWithIndicator (text : Text) : Bool :=
  match text with
  | [] => false
  | '-' :: '-' :: '-' :: _ | '.' :: '.' :: '.' :: _ => true
  | c :: rest =>
    (c == '?' || c == ':' || c == '-') && endsWord rest
      || "#,[]\x7b\x7d&*!|>'\"%@\x60".toList.contains c

/-- Whether a text holds a mark that ends a plain scalar. -/
def hasInnerIndicator (text : Text) : Bool :=
  (text.getLast? == some ':' && 1 < text.length)
    || hasPair (fun c d ↦ c == ':' && (isBlank d || isBreak d)) (text.drop 1)
    || hasPair (fun c d ↦ (isBlank c || isBreak c) && d == '#') text

/-- Whether a text can be written plainly. -/
def mayBePlain (text : Text) : Bool :=
  !(text.head?.any fun c ↦ c == ' ' || isBreak c)
    && !(text.getLast?.any fun c ↦ c == ' ' || isBreak c)
    && !text.any isBreak && !beginsWithIndicator text && !hasInnerIndicator text
    && !hasUnprintable text

/-- Whether a text can stand between single quotes. -/
def mayBeSingleQuoted (text : Text) : Bool :=
  !hasSpaceBeforeBreak text && !hasSpaceBehindBreak text && !hasUnprintable text

/-- Whether a text can stand below its name. -/
def mayBeLiteral (text : Text) : Bool :=
  text.getLast? != some ' ' && !hasSpaceBeforeBreak text && !hasUnprintable text

/-- Whether a text would be taken for a truth value by readers of an earlier version. -/
def isOldBoolName (text : Text) : Bool :=
  ["y", "Y", "yes", "Yes", "YES", "n", "N", "no", "No", "NO", "true", "True", "TRUE", "false",
    "False", "FALSE", "on", "On", "ON", "off", "Off", "OFF"].any fun name ↦ name.toList == text

/-- The style in which a text is to be written if it can be. -/
def preferredStyle (text : Text) : Style :=
  if isOldBoolName text then .singleQuoted
  else if text.contains '\n' then .literal
  else if isAmbiguous text then .singleQuoted
  else .plain

/-- The style in which a text is written. -/
def styleOf (text : Text) : Style :=
  let quoted := if mayBeSingleQuoted text then .singleQuoted else .doubleQuoted
  match preferredStyle text with
  | .plain => if mayBePlain text then .plain else quoted
  | .literal => if mayBeLiteral text then .literal else .doubleQuoted
  | _ => quoted

/-- Text between single quotes, without line feeds. What follows another break is indented. -/
def singleQuote (text : Text) : Text :=
  let rec inner (behindBreak : Bool) : Text → Text
    | [] => if behindBreak then [' ', ' '] else []
    | c :: rest =>
      if isBreak c then c :: inner true rest
      else
        (if behindBreak then [' ', ' '] else [])
          ++ (if c == '\'' then ['\'', '\''] else [c]) ++ inner false rest
  '\'' :: inner false text ++ ['\'']

/-- A code point in the given number of hexadecimal digits. -/
def hexadecimal (width code : Nat) : Text :=
  (List.range width).reverse.map fun place ↦ (Nat.digitChar (code >>> (4 * place) % 16)).toUpper

/-- A character as it appears between double quotes. -/
def escape (c : Char) : Text :=
  match c with
  | '\x00' => ['\\', '0']
  | '\x07' => ['\\', 'a']
  | '\x08' => ['\\', 'b']
  | '\t' => ['\\', 't']
  | '\n' => ['\\', 'n']
  | '\x0b' => ['\\', 'v']
  | '\x0c' => ['\\', 'f']
  | '\r' => ['\\', 'r']
  | '\x1b' => ['\\', 'e']
  | '"' => ['\\', '"']
  | '\\' => ['\\', '\\']
  | '\x85' => ['\\', 'N']
  | '\u2028' => ['\\', 'L']
  | '\u2029' => ['\\', 'P']
  | _ =>
    if isPrintable c then [c]
    else if c.toNat ≤ 0xff then '\\' :: 'x' :: hexadecimal 2 c.toNat
    else if c.toNat ≤ 0xffff then '\\' :: 'u' :: hexadecimal 4 c.toNat
    else '\\' :: 'U' :: hexadecimal 8 c.toNat

/-- Text between double quotes. -/
def doubleQuote (text : Text) : Text :=
  '"' :: text.flatMap escape ++ ['"']

/-- What a literal scalar says about the breaks at its end. -/
def chompingMark (text : Text) : Text :=
  match text.reverse with
  | [] => ['-']
  | [last] => if isBreak last then ['+'] else ['-']
  | last :: other :: _ =>
    if !isBreak last then ['-'] else if isBreak other then ['+'] else []

/-- Text below its name, each line of it indented. -/
def literalBlock (text : Text) : Text :=
  let rec inner (behindBreak : Bool) : Text → Text
    | [] => []
    | c :: rest =>
      if isBreak c then c :: inner true rest
      else (if behindBreak then [' ', ' '] else []) ++ c :: inner false rest
  let hint := if text.head?.any fun c ↦ c == ' ' || isBreak c then ['2'] else []
  '|' :: hint ++ chompingMark text ++ '\n' :: inner true text

/-- Text as a value, with the end of its last line. -/
def textLines (text : Text) : Text :=
  match styleOf text with
  | .singleQuoted => singleQuote text ++ ['\n']
  | .doubleQuoted => doubleQuote text ++ ['\n']
  | .literal =>
    literalBlock text ++ if text.getLast?.any isBreak then [] else ['\n']
  | _ => text ++ ['\n']

/-- A value, with the end of its last line. -/
def valueLines : Setting → Text
  | .absent => "null\n".toList
  | .number value => numberNotation.write value ++ ['\n']
  | .count value => decimal value.toNat ++ ['\n']
  | .text value => textLines value

/-- The lines of the settings. -/
def write (settings : Settings) : Text :=
  settings.flatMap fun (name, value) ↦ name ++ ": ".toList ++ valueLines value

end SocketMetrics.Yaml
