import SocketMetrics.Text.Basic
/-!
The classes of characters on which YAML is built. A line may end in several ways; before anything
else is looked at, all of them but the line and the paragraph separator become line feeds.
-/

set_option autoImplicit false
set_option relaxedAutoImplicit false

namespace SocketMetrics.Yaml

/-- Whether a character ends a line, once the ends of lines are folded. -/
def isBreak (c : Char) : Bool :=
  c == '\n' || c == '\u2028' || c == '\u2029'

/-- Whether a character is blank within a line. -/
def isBlank (c : Char) : Bool :=
  c == ' ' || c == '\t'

/-- Whether a character may stand in the name of an anchor or of a tag handle. -/
def isNameCharacter (c : Char) : Bool :=
  c.isAlphanum || c == '_' || c == '-'

/-- Whether a character can be written at all. -/
def isPrintable (c : Char) : Bool :=
  let code := c.toNat
  c == '\n' || (0x20 ≤ code && code ≤ 0x7e) || (0xa0 ≤ code && code ≤ 0xd7ff)
    || (0xe000 ≤ code && code ≤ 0xfffd && code != 0xfeff) || 0x10000 ≤ code

/-- Whether a character may stand in a file. -/
def isAllowed (c : Char) : Bool :=
  isPrintable c || c == '\t' || c == '\r' || c == '\x85' || c == '\ufeff'

/-- The text with line feeds for those ends of lines that are read as such. -/
def foldBreaks : Text → Text
  | '\r' :: '\n' :: rest => '\n' :: foldBreaks rest
  | c :: rest => (if c == '\r' || c == '\x85' then '\n' else c) :: foldBreaks rest
  | [] => []

/-- Whether a word ends where a text begins. -/
def endsWord (text : Text) : Bool :=
  match text with
  | [] => true
  | c :: _ => isBlank c || isBreak c

/-- Whether a text begins with a mark at which a document starts. -/
def atDocumentStart : Text → Bool
  | '-' :: '-' :: '-' :: rest => endsWord rest
  | _ => false

/-- Whether a text begins with a mark at which a document ends. -/
def atDocumentEnd : Text → Bool
  | '.' :: '.' :: '.' :: rest => endsWord rest
  | _ => false

/-- Whether a text begins with a mark between documents. -/
def atDocumentMark (text : Text) : Bool :=
  atDocumentStart text || atDocumentEnd text

/-- Whether a character bounds the items of a collection between brackets or braces. -/
def isFlowIndicator (c : Char) : Bool :=
  c == ',' || c == '[' || c == ']' || c == '{' || c == '}'

end SocketMetrics.Yaml
