import SocketMetrics.Json.Number
import SocketMetrics.Text.Hexadecimal
/-!
The tokens of JSON. A string is kept as the pieces it is written with: an escape may denote half of
a character beyond 16 bits, and whether the halves fit together matters only where the string is
used. `tokens?` cuts a whole text into tokens.
-/

set_option autoImplicit false
set_option relaxedAutoImplicit false

namespace SocketMetrics.Json

/-- A piece of a string. -/
inductive Piece where
  | character (c : Char)
  /-- One half of a character beyond 16 bits, by its code. -/
  | half (code : Nat)
deriving DecidableEq, Repr

/-- The piece that a code of 16 bits denotes. -/
def Piece.ofCode (code : Nat) : Piece :=
  if 0xd800 ≤ code ∧ code < 0xe000 then half code else character (Char.ofNat code)

/-- The character that two halves make up. -/
def joinHalves? (high low : Nat) : Option Char :=
  if high < 0xdc00 ∧ 0xdc00 ≤ low then
    some (Char.ofNat (0x10000 + (high - 0xd800) * 0x400 + (low - 0xdc00)))
  else none

/-- The text that pieces make up, if all halves come in pairs. -/
def joined? : List Piece → Option Text
  | [] => some []
  | .character c :: rest => (joined? rest).map (c :: ·)
  | .half high :: .half low :: rest => do
    let c ← joinHalves? high low
    (joined? rest).map (c :: ·)
  | .half _ :: _ => none

/-- The character that a backslash and a letter denote. -/
def unescape? : Char → Option Char
  | '"' => some '"'
  | '\\' => some '\\'
  | '/' => some '/'
  | 'b' => some '\x08'
  | 'f' => some '\x0c'
  | 'n' => some '\n'
  | 'r' => some '\r'
  | 't' => some '\t'
  | _ => none

/-- Takes the rest of a string off a text that begins behind the opening quote. -/
def stringRest? : Text → Option (List Piece × Text)
  | '"' :: rest => some ([], rest)
  | '\\' :: 'u' :: a :: b :: c :: d :: rest => do
    let code ← Text.hexValue? [a, b, c, d]
    let (pieces, rest) ← stringRest? rest
    return (.ofCode code :: pieces, rest)
  | '\\' :: letter :: rest => do
    let c ← unescape? letter
    let (pieces, rest) ← stringRest? rest
    return (.character c :: pieces, rest)
  | c :: rest => do
    if c.toNat < 0x20 then none
    let (pieces, rest) ← stringRest? rest
    return (.character c :: pieces, rest)
  | [] => none

/-- The least unit of meaning. -/
inductive Token where
  | openObject
  | closeObject
  | openArray
  | closeArray
  | comma
  | colon
  | null
  | bool (value : Bool)
  | number (literal : NumberLiteral)
  | string (pieces : List Piece)
deriving DecidableEq, Repr

/-- Whether a character may stand between tokens. -/
def isSpace (c : Char) : Bool :=
  c == ' ' || c == '\t' || c == '\n' || c == '\r'

/-- Takes a token off the beginning of a text. -/
def token? : Text → Option (Token × Text)
  | '{' :: rest => some (.openObject, rest)
  | '}' :: rest => some (.closeObject, rest)
  | '[' :: rest => some (.openArray, rest)
  | ']' :: rest => some (.closeArray, rest)
  | ',' :: rest => some (.comma, rest)
  | ':' :: rest => some (.colon, rest)
  | 'n' :: 'u' :: 'l' :: 'l' :: rest => some (.null, rest)
  | 't' :: 'r' :: 'u' :: 'e' :: rest => some (.bool true, rest)
  | 'f' :: 'a' :: 'l' :: 's' :: 'e' :: rest => some (.bool false, rest)
  | '"' :: rest => (stringRest? rest).map fun (pieces, rest) ↦ (.string pieces, rest)
  | text => (numberLiteral? text).map fun (literal, rest) ↦ (.number literal, rest)

/-- All tokens of a text. -/
def tokens? (text : Text) : Option (List Token) :=
  match text with
  | [] => some []
  | c :: rest =>
    if isSpace c then tokens? rest
    else match token? (c :: rest) with
      | none => none
      | some (token, others) =>
        if others.length ≤ rest.length then (tokens? others).map (token :: ·) else none
termination_by text.length

end SocketMetrics.Json
