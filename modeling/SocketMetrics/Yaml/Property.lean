import SocketMetrics.Number.Decimal
import SocketMetrics.Text.Hexadecimal
import SocketMetrics.Yaml.Scalar
import SocketMetrics.Yaml.Token
/-!
Names of anchors, tags and directives, each taken off the beginning of a text behind the mark that
announces it. Tags may hold bytes of UTF-8 in hexadecimal digits.
-/

set_option autoImplicit false
set_option relaxedAutoImplicit false

namespace SocketMetrics.Yaml

open Number

/-- Whether a text begins with something that may follow the name of an anchor. -/
def endsAnchor (text : Text) : Bool :=
  endsWord text || text.head?.any fun c ↦ "?:,]\x7d%@\x60".toList.contains c

/-- Takes the name of an anchor off a text. -/
def anchorName? (text : Text) : Option (Text × Text) :=
  let name := text.takeWhile isNameCharacter
  let rest := text.dropWhile isNameCharacter
  if name.isEmpty || !endsAnchor rest then none else some (name, rest)

/-- Whether a character may stand for itself in a tag behind a handle. -/
def isTagCharacter (c : Char) : Bool :=
  isNameCharacter c || ";/?:@&=+$.!~*'()".toList.contains c

/-- Whether a character may stand for itself in a full tag. -/
def isFullTagCharacter (c : Char) : Bool :=
  isTagCharacter c || c == ',' || c == '[' || c == ']'

/-- Takes the bytes of a tag off a text. -/
def tagBytes? (isMember : Char → Bool) : Text → Option (List UInt8 × Text)
  | '%' :: high :: low :: rest => do
    let byte ← Text.hexValue? [high, low]
    let (bytes, rest) ← tagBytes? isMember rest
    return (byte.toUInt8 :: bytes, rest)
  | c :: rest =>
    if c == '%' then none
    else if isMember c then do
      let (bytes, rest) ← tagBytes? isMember rest
      return (c.toNat.toUInt8 :: bytes, rest)
    else some ([], c :: rest)
  | [] => some ([], [])

/-- Takes a stretch of a tag off a text. -/
def tagText? (isMember : Char → Bool) (text : Text) : Option (Text × Text) := do
  let (bytes, rest) ← tagBytes? isMember text
  return (← Text.ofUtf8? bytes, rest)

/-- Takes a stretch of a tag off a text, unless it is empty. -/
def nonemptyTagText? (isMember : Char → Bool) (text : Text) : Option (Text × Text) :=
  (tagText? isMember text).filter fun (name, _) ↦ !name.isEmpty

/-- Takes a tag off a text, whatever follows. A tag between angle brackets is full, and a lone mark
is a tag of its own. -/
def bareTag? (text : Text) : Option (TagName × Text) :=
  match text with
  | '<' :: rest => do
    let (suffix, rest) ← nonemptyTagText? isFullTagCharacter rest
    match rest with
    | '>' :: rest => some (⟨[], suffix⟩, rest)
    | _ => none
  | _ =>
    let word := text.takeWhile isNameCharacter
    match text.dropWhile isNameCharacter with
    | '!' :: rest => do
      let (suffix, rest) ← nonemptyTagText? isTagCharacter rest
      return (⟨'!' :: word ++ ['!'], suffix⟩, rest)
    | rest => do
      let (suffix, rest) ← tagText? isTagCharacter rest
      let name := word ++ suffix
      return (if name.isEmpty then ⟨[], ['!']⟩ else ⟨['!'], name⟩, rest)

/-- Takes a tag off a text. A comma ends it between brackets or braces only. -/
def tag? (inFlow : Bool) (text : Text) : Option (TagName × Text) :=
  (bareTag? text).filter fun (_, rest) ↦ endsWord rest || (inFlow && rest.head? = some ',')

/-- Takes a number of a version off a text. -/
def versionNumber? (text : Text) : Option (Nat × Text) :=
  let (digits, rest) := spanDigits text
  if digits.isEmpty || 9 < digits.length then none else some (digitsValue digits, rest)

/-- Takes a version off a text. -/
def version? (text : Text) : Option (Token × Text) := do
  let (major, rest) ← versionNumber? (text.dropWhile isBlank)
  match rest with
  | '.' :: rest => do
    let (minor, rest) ← versionNumber? rest
    return (.version major minor, rest)
  | _ => none

/-- Takes a handle with its mark off a text. -/
def handleName? (text : Text) : Option (Text × Text) :=
  match text with
  | '!' :: rest =>
    let word := rest.takeWhile isNameCharacter
    match rest.dropWhile isNameCharacter with
    | '!' :: rest => some ('!' :: word ++ ['!'], rest)
    | rest => if word.isEmpty then some (['!'], rest) else none
  | _ => none

/-- Takes a handle and what it stands for off a text. -/
def handle? (text : Text) : Option (Token × Text) := do
  let (handle, rest) ← handleName? (text.dropWhile isBlank)
  if rest.head?.all fun c ↦ !isBlank c then none
  else
    let (meaning, rest) ← nonemptyTagText? isFullTagCharacter (rest.dropWhile isBlank)
    if endsWord rest then some (.handle handle meaning, rest) else none

/-- Takes a directive off a text, with the end of its line. -/
def directive? (text : Text) : Option (Token × Text) := do
  let name := text.takeWhile isNameCharacter
  let rest := text.dropWhile isNameCharacter
  if !endsWord rest then none
  else
    let (token, rest) ← if name = "YAML".toList then version? rest
      else if name = "TAG".toList then handle? rest
      else none
    return (token, ← dropEmptyLine? rest)

end SocketMetrics.Yaml
