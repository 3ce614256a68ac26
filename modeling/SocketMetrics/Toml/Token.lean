import SocketMetrics.Text.Hexadecimal
/-!
The tokens of TOML. A line may end in a line feed or in a carriage return and a line feed, which
count as one. Strings are read here, with their escapes; numbers and dates are not, because they
are made of several tokens.
-/

set_option autoImplicit false
set_option relaxedAutoImplicit false

namespace SocketMetrics.Toml

/-- The least unit of meaning. -/
inductive Token where
  | lineEnd
  | blank (characters : Text)
  | comment
  | equals
  | period
  | comma
  | colon
  | plus
  | openBrace
  | closeBrace
  | openBracket
  | closeBracket
  /-- A row of letters, digits, underscores and minus signs. -/
  | bare (word : Text)
  | string (value : Text) (multiline : Bool)
deriving DecidableEq, Repr

/-- The text with single line feeds for its line ends. -/
def foldLineEnds : Text → Text
  | '\r' :: '\n' :: rest => '\n' :: foldLineEnds rest
  | c :: rest => c :: foldLineEnds rest
  | [] => []

/-- Whether a character may stand in a string as it is. -/
def isStringCharacter (c : Char) : Bool :=
  c == '\t' || (0x20 ≤ c.toNat && c.toNat != 0x7f)

/-- Whether a character may stand in a bare word. -/
def isBareCharacter (c : Char) : Bool :=
  c.isAlphanum || c == '-' || c == '_'

/-- The character that a backslash and a letter denote. -/
def unescape? : Char → Option Char
  | '"' => some '"'
  | '\\' => some '\\'
  | 'b' => some '\x08'
  | 'f' => some '\x0c'
  | 'n' => some '\n'
  | 'r' => some '\r'
  | 't' => some '\t'
  | _ => none

/-- The character that a row of hexadecimal digits denotes. -/
def hexCharacter? (digits : Text) : Option Char := do
  Text.ofCodePoint? (← Text.hexValue? digits)

/-- A character in front of the rest of a string. -/
def consTo (c : Char) : Text × Text → Text × Text
  | (value, rest) => (c :: value, rest)

/-- Takes the rest of a literal string of one line off a text. -/
def literalRest? : Text → Option (Text × Text)
  | [] => none
  | '\'' :: rest => some ([], rest)
  | c :: rest => if isStringCharacter c then (literalRest? rest).map (consTo c) else none

/-- Takes the rest of a literal string of several lines off a text. Up to two quotes may stand in
front of the three that end it. -/
def literalLinesRest? : Text → Option (Text × Text)
  | '\'' :: '\'' :: '\'' :: '\'' :: '\'' :: rest => some (['\'', '\''], rest)
  | '\'' :: '\'' :: '\'' :: '\'' :: rest => some (['\''], rest)
  | '\'' :: '\'' :: '\'' :: rest => some ([], rest)
  | c :: rest =>
    if c == '\n' || isStringCharacter c then (literalLinesRest? rest).map (consTo c) else none
  | [] => none

/-- Takes the rest of a basic string of one line off a text. -/
def basicRest? : Text → Option (Text × Text)
  | '"' :: rest => some ([], rest)
  | '\\' :: 'u' :: a :: b :: c :: d :: rest => do
    let character ← hexCharacter? [a, b, c, d]
    (basicRest? rest).map (consTo character)
  | '\\' :: 'U' :: a :: b :: c :: d :: e :: f :: g :: h :: rest => do
    let character ← hexCharacter? [a, b, c, d, e, f, g, h]
    (basicRest? rest).map (consTo character)
  | '\\' :: letter :: rest => do
    let character ← unescape? letter
    (basicRest? rest).map (consTo character)
  | c :: rest => if isStringCharacter c then (basicRest? rest).map (consTo c) else none
  | [] => none

/-- What a basic string of several lines passes over behind a backslash at the end of a line. -/
inductive Skipping where
  | nothing
  /-- Blanks up to the end of the line. -/
  | toLineEnd
  /-- Blanks and line ends. -/
  | blanks
deriving DecidableEq, Repr

/-- Takes the rest of a basic string of several lines off a text. -/
def basicLinesRest? (skipping : Skipping) : Text → Option (Text × Text)
  | [] => none
  | c :: rest =>
    if skipping = .toLineEnd then
      if c == ' ' || c == '\t' then basicLinesRest? .toLineEnd rest
      else if c == '\n' then basicLinesRest? .blanks rest
      else none
    else if skipping = .blanks && (c == ' ' || c == '\t' || c == '\n') then
      basicLinesRest? .blanks rest
    else match c, rest with
      | '"', '"' :: '"' :: '"' :: '"' :: rest => some (['"', '"'], rest)
      | '"', '"' :: '"' :: '"' :: rest => some (['"'], rest)
      | '"', '"' :: '"' :: rest => some ([], rest)
      | '\\', 'u' :: a :: b :: c :: d :: rest => do
        let character ← hexCharacter? [a, b, c, d]
        (basicLinesRest? .nothing rest).map (consTo character)
      | '\\', 'U' :: a :: b :: c :: d :: e :: f :: g :: h :: rest => do
        let character ← hexCharacter? [a, b, c, d, e, f, g, h]
        (basicLinesRest? .nothing rest).map (consTo character)
      | '\\', '\n' :: rest => basicLinesRest? .blanks rest
      | '\\', ' ' :: rest | '\\', '\t' :: rest => basicLinesRest? .toLineEnd rest
      | '\\', letter :: rest => do
        let character ← unescape? letter
        (basicLinesRest? .nothing rest).map (consTo character)
      | c, rest =>
        if c == '\n' || isStringCharacter c then
          (basicLinesRest? .nothing rest).map (consTo c)
        else none

/-- The text behind the line feed that may follow the opening of a string of several lines. -/
def afterOpening : Text → Text
  | '\n' :: rest => rest
  | text => text

/-- Whether a comment goes on at a character. -/
def isCommentCharacter (c : Char) : Bool :=
  c == '\t' || 0x20 ≤ c.toNat

/-- Whether a character is blank within a line. -/
def isBlank (c : Char) : Bool :=
  c == ' ' || c == '\t'

/-- Takes a token off the beginning of a text. -/
def token? : Text → Option (Token × Text)
  | [] => none
  | '\n' :: rest => some (.lineEnd, rest)
  | '#' :: rest => some (.comment, rest.dropWhile isCommentCharacter)
  | '=' :: rest => some (.equals, rest)
  | '.' :: rest => some (.period, rest)
  | ',' :: rest => some (.comma, rest)
  | ':' :: rest => some (.colon, rest)
  | '+' :: rest => some (.plus, rest)
  | '{' :: rest => some (.openBrace, rest)
  | '}' :: rest => some (.closeBrace, rest)
  | '[' :: rest => some (.openBracket, rest)
  | ']' :: rest => some (.closeBracket, rest)
  | '\'' :: '\'' :: '\'' :: rest =>
    (literalLinesRest? (afterOpening rest)).map fun (value, rest) ↦ (.string value true, rest)
  | '\'' :: rest => (literalRest? rest).map fun (value, rest) ↦ (.string value false, rest)
  | '"' :: '"' :: '"' :: rest =>
    (basicLinesRest? .nothing (afterOpening rest)).map fun (value, rest) ↦
      (.string value true, rest)
  | '"' :: rest => (basicRest? rest).map fun (value, rest) ↦ (.string value false, rest)
  | text =>
    let blanks := text.takeWhile isBlank
    let word := text.takeWhile isBareCharacter
    if !blanks.isEmpty then some (.blank blanks, text.dropWhile isBlank)
    else if !word.isEmpty then some (.bare word, text.dropWhile isBareCharacter)
    else none

/-- All tokens of a text whose line ends are single line feeds. -/
def tokensOf? (text : Text) : Option (List Token) :=
  match text with
  | [] => some []
  | c :: rest =>
    match token? (c :: rest) with
    | none => none
    | some (token, others) =>
      if others.length ≤ rest.length then (tokensOf? others).map (token :: ·) else none
termination_by text.length

/-- All tokens of a text. A byte order mark in front of it is passed over. -/
def tokens? (text : Text) : Option (List Token) :=
  tokensOf? <| foldLineEnds <| match text with
    | '\ufeff' :: rest => rest
    | _ => text

end SocketMetrics.Toml
