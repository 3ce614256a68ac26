import SocketMetrics.Text.Basic
import SocketMetrics.Text.Printable
/-!
Quoted text, as diagnostics show the content they complain about. The text stands between double
quotes; the quote, the backslash, the tab, both line ends and the null character have an escape of
two characters, every other character that is not plain is given by its code point in braces, and
all else stands for itself.
-/

set_option autoImplicit false
set_option relaxedAutoImplicit false

namespace SocketMetrics.Text

/-- The letter behind the backslash for the characters with a short escape. -/
def escapeLetter? : Char → Option Char
  | '\x00' => some '0'
  | '\t' => some 't'
  | '\r' => some 'r'
  | '\n' => some 'n'
  | '\\' => some '\\'
  | '"' => some '"'
  | _ => none

/-- A character as it appears between quotes. -/
def escape (c : Char) : Text :=
  match escapeLetter? c with
  | some letter => ['\\', letter]
  | none =>
    if isPlain c then [c]
    else ['\\', 'u', '{'] ++ Nat.toDigits 16 c.toNat ++ ['}']

/-- The text between double quotes, escaped. -/
def quote (text : Text) : Text :=
  '"' :: text.flatMap escape ++ ['"']

/-- A list of quoted texts in square brackets. -/
def quoteList (texts : List Text) : Text :=
  '[' :: [',', ' '].intercalate (texts.map quote) ++ [']']

end SocketMetrics.Text
