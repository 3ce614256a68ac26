import SocketMetrics.Text.Basic
/-!
Text as the operating system passes it on, in the words of a command line and in paths: bytes, which
are UTF-8 as a rule and need not be. What is not UTF-8 has no text, but it can be shown, with a
replacement character for every stretch of bytes that no character begins with.
-/

set_option autoImplicit false
set_option relaxedAutoImplicit false

namespace SocketMetrics

/-- A text of the operating system. -/
structure RawText where
  bytes : List UInt8
deriving DecidableEq, Repr

namespace RawText

/-- The bytes of a text. -/
def ofText (text : Text) : RawText :=
  ⟨text.toUtf8⟩

/-- The text of the bytes, if they are UTF-8. -/
def text? (raw : RawText) : Option Text :=
  Text.ofUtf8? raw.bytes

/-- The text without any bytes. -/
def empty : RawText :=
  ⟨[]⟩

/-- Whether a byte can stand inside of a character. -/
def isInner (byte : UInt8) : Bool :=
  0x80 ≤ byte && byte ≤ 0xbf

/-- Whether a character of three or four bytes can begin with two bytes. -/
def canBegin (first second : UInt8) : Bool :=
  if first = 0xe0 then 0xa0 ≤ second && second ≤ 0xbf
  else if first = 0xed then 0x80 ≤ second && second ≤ 0x9f
  else if first = 0xf0 then 0x90 ≤ second && second ≤ 0xbf
  else if first = 0xf4 then 0x80 ≤ second && second ≤ 0x8f
  else 0xe1 ≤ first && first ≤ 0xf3 && isInner second

/-- The number of bytes that a single replacement character stands for: those that a character
could have begun with, had it been completed. -/
def brokenLength : List UInt8 → Nat
  | first :: second :: third :: _ =>
    if !canBegin first second then 1 else if 0xf0 ≤ first && isInner third then 3 else 2
  | [first, second] => if canBegin first second then 2 else 1
  | _ => 1

/-- The character that bytes begin with, and the number of its bytes. -/
def firstCharacter (bytes : List UInt8) : Char × Nat :=
  let found := [1, 2, 3, 4].findSome? fun count ↦
    match Text.ofUtf8? (bytes.take count) with
    | some [c] => some (c, count)
    | _ => none
  found.getD ('\ufffd', brokenLength bytes)

/-- The characters of bytes, of which the first ones may have been taken already. -/
def characters (taken : Nat) : List UInt8 → Text
  | [] => []
  | byte :: rest =>
    match taken with
    | more + 1 => characters more rest
    | 0 =>
      let (c, count) := firstCharacter (byte :: rest)
      c :: characters (count - 1) rest

/-- The text as it is shown. -/
def display (raw : RawText) : Text :=
  raw.text?.getD (characters 0 raw.bytes)

/-- The first character, as it is shown, and what follows it. -/
def uncons? (raw : RawText) : Option (Char × RawText) :=
  if raw.bytes.isEmpty then none
  else
    let (c, count) := firstCharacter raw.bytes
    some (c, ⟨raw.bytes.drop count⟩)

end RawText

end SocketMetrics
