import SocketMetrics.Text.Hexadecimal
import SocketMetrics.Yaml.Character
/-!
The scalars of YAML, each taken off the beginning of a text. Between the words of a plain or quoted
scalar a single line break counts as a blank, and of several breaks the first counts for nothing;
blanks beside a break are dropped. A block scalar keeps its lines, or folds them by similar rules.
-/

set_option autoImplicit false
set_option relaxedAutoImplicit false

namespace SocketMetrics.Yaml

/-- Blanks and breaks between two words of a scalar. -/
structure Gap where
  /-- The blanks in front of the first break. -/
  blanks : Text
  breaks : Text
  /-- Whether there is a break in front of the others that a backslash hides. -/
  hidden : Bool
deriving DecidableEq, Repr

namespace Gap

def none : Gap := ⟨[], [], false⟩

/-- The gap behind a hidden break. -/
def afterHidden : Gap := ⟨[], [], true⟩

/-- Whether the gap leads to another line. -/
def isBroken (gap : Gap) : Bool :=
  gap.hidden || !gap.breaks.isEmpty

def addBlank (gap : Gap) (c : Char) : Gap :=
  if gap.isBroken then gap else { gap with blanks := gap.blanks ++ [c] }

def addBreak (gap : Gap) (c : Char) : Gap :=
  { gap with blanks := [], breaks := gap.breaks ++ [c] }

/-- What the gap counts for. -/
def text (gap : Gap) : Text :=
  if gap.hidden then gap.breaks
  else match gap.breaks with
    | [] => gap.blanks
    | ['\n'] => [' ']
    | '\n' :: others => others
    | others => others

end Gap

/-- A stretch in front of the rest of a scalar. -/
def before (stretch : Text) : Text × Text → Text × Text
  | (value, rest) => (stretch ++ value, rest)

/-- Takes the rest of a scalar between single quotes off a text. -/
def singleRest? (lineStart : Bool) (gap : Gap) : Text → Option (Text × Text)
  | '\'' :: '\'' :: rest => (singleRest? false .none rest).map (before (gap.text ++ ['\'']))
  | '\'' :: rest => some (gap.text, rest)
  | c :: rest =>
    if isBlank c then singleRest? false (gap.addBlank c) rest
    else if isBreak c then singleRest? true (gap.addBreak c) rest
    else if lineStart && atDocumentMark (c :: rest) then none
    else (singleRest? false .none rest).map (before (gap.text ++ [c]))
  | [] => none

/-- The character that a backslash and a letter denote. -/
def unescape? : Char → Option Char
  | '0' => some '\x00'
  | 'a' => some '\x07'
  | 'b' => some '\x08'
  | 't' | '\t' => some '\t'
  | 'n' => some '\n'
  | 'v' => some '\x0b'
  | 'f' => some '\x0c'
  | 'r' => some '\r'
  | 'e' => some '\x1b'
  | ' ' => some ' '
  | '"' => some '"'
  | '/' => some '/'
  | '\\' => some '\\'
  | 'N' => some '\x85'
  | '_' => some '\xa0'
  | 'L' => some '\u2028'
  | 'P' => some '\u2029'
  | _ => none

/-- The character that a row of hexadecimal digits denotes. -/
def hexCharacter? (digits : Text) : Option Char := do
  Text.ofCodePoint? (← Text.hexValue? digits)

/-- Takes the rest of a scalar between double quotes off a text. -/
def doubleRest? (lineStart : Bool) (gap : Gap) : Text → Option (Text × Text)
  | '"' :: rest => some (gap.text, rest)
  | '\\' :: 'x' :: a :: b :: rest => do
    let c ← hexCharacter? [a, b]
    (doubleRest? false .none rest).map (before (gap.text ++ [c]))
  | '\\' :: 'u' :: a :: b :: c :: d :: rest => do
    let c ← hexCharacter? [a, b, c, d]
    (doubleRest? false .none rest).map (before (gap.text ++ [c]))
  | '\\' :: 'U' :: a :: b :: c :: d :: e :: f :: g :: h :: rest => do
    let c ← hexCharacter? [a, b, c, d, e, f, g, h]
    (doubleRest? false .none rest).map (before (gap.text ++ [c]))
  | '\\' :: letter :: rest =>
    if isBreak letter then (doubleRest? true .afterHidden rest).map (before gap.text)
    else do
      let c ← unescape? letter
      (doubleRest? false .none rest).map (before (gap.text ++ [c]))
  | c :: rest =>
    if isBlank c then doubleRest? false (gap.addBlank c) rest
    else if isBreak c then doubleRest? true (gap.addBreak c) rest
    else if lineStart && atDocumentMark (c :: rest) then none
    else (doubleRest? false .none rest).map (before (gap.text ++ [c]))
  | [] => none

/-- A plain scalar taken off a text. -/
structure Plain where
  value : Text
  /-- What follows the scalar and the gap behind it. -/
  rest : Text
  /-- Whether the gap behind it leads to another line. -/
  broken : Bool
deriving DecidableEq, Repr

/-- Whether a plain scalar ends in front of a character that is neither blank nor break. At the
beginning of a word, a comment or a mark between documents may stand instead, and in block layout
a word that is indented too little. -/
def endsPlain (inFlow : Bool) (indent : Int) (column : Nat) (wordStart : Bool) (text : Text) :
    Bool :=
  let c := text.head?
  (wordStart &&
    (c == some '#' || (column == 0 && atDocumentMark text) || (!inFlow && (column : Int) < indent)))
    || (c == some ':' && endsWord (text.drop 1))
    || (inFlow && (c.map isFlowIndicator).getD false)

/-- Takes the rest of a plain scalar off a text. -/
def plainRest? (inFlow : Bool) (indent : Int) (column : Nat) (wordStart : Bool) (gap : Gap) :
    Text → Option Plain
  | [] => some ⟨[], [], gap.isBroken⟩
  | c :: rest =>
    if isBlank c then
      if c == '\t' && gap.isBroken && (column : Int) < indent then none
      else plainRest? inFlow indent (column + 1) true (gap.addBlank c) rest
    else if isBreak c then plainRest? inFlow indent 0 true (gap.addBreak c) rest
    else if endsPlain inFlow indent column wordStart (c :: rest) then
      some ⟨[], c :: rest, gap.isBroken⟩
    else if inFlow && c == ':' && rest.head?.any (fun d ↦ d == '?' || isFlowIndicator d) then none
    else (plainRest? inFlow indent (column + 1) false .none rest).map fun plain ↦
      { plain with value := gap.text ++ c :: plain.value }

/-- What becomes of the breaks at the end of a block scalar. -/
inductive Chomping where
  | strip
  /-- The break that ends the last line stays. -/
  | clip
  | keep
deriving DecidableEq, Repr

/-- The character that asks for a chomping. -/
def chomping? : Char → Option Chomping
  | '-' => some .strip
  | '+' => some .keep
  | _ => none

/-- The indentation that a digit asks for. -/
def increment? (c : Char) : Option Nat :=
  if '1' ≤ c ∧ c ≤ '9' then some (c.toNat - '0'.toNat) else none

/-- The head of a block scalar. -/
structure BlockHead where
  chomping : Chomping
  /-- The indentation relative to that of the surroundings, if it is given. -/
  increment : Option Nat
deriving DecidableEq, Repr

/-- Takes the head of a block scalar off a text that begins behind its indicator. -/
def blockHead? (text : Text) : Option (BlockHead × Text) :=
  match text with
  | [] => some (⟨.clip, none⟩, [])
  | first :: rest =>
    match chomping? first, first.isDigit with
    | some chomping, _ =>
      match rest with
      | digit :: others =>
        if digit.isDigit then (increment? digit).map fun n ↦ (⟨chomping, some n⟩, others)
        else some (⟨chomping, none⟩, rest)
      | [] => some (⟨chomping, none⟩, [])
    | none, true => do
      let increment ← increment? first
      match rest with
      | sign :: others =>
        match chomping? sign with
        | some chomping => some (⟨chomping, some increment⟩, others)
        | none => some (⟨.clip, some increment⟩, rest)
      | [] => some (⟨.clip, some increment⟩, [])
    | none, false => some (⟨.clip, none⟩, text)

/-- Drops the rest of a line that holds nothing but blanks and a comment, with its break. -/
def dropEmptyLine? (text : Text) : Option Text :=
  let rest := text.dropWhile isBlank
  let rest := if rest.head? = some '#' then rest.dropWhile (!isBreak ·) else rest
  match rest with
  | [] => some []
  | c :: rest => if isBreak c then some rest else none

/-- Empty lines in front of a line of a block scalar. -/
structure EmptyLines where
  breaks : Text
  /-- The column of the line behind them. -/
  column : Nat
  /-- The greatest indentation of them and of that line. -/
  widest : Nat
  rest : Text
deriving DecidableEq, Repr

/-- Takes empty lines and the indentation behind them off a text. Indentation ends at the given
column, if there is one, and holds no tabs. -/
def emptyLines? (indent : Option Nat) (column widest : Nat) : Text → Option EmptyLines
  | [] => some ⟨[], column, max widest column, []⟩
  | c :: rest =>
    let isIndentation := match indent with
      | none => true
      | some indent => decide (column < indent)
    if c == ' ' && isIndentation then emptyLines? indent (column + 1) widest rest
    else if c == '\t' && isIndentation then none
    else if isBreak c then
      (emptyLines? indent 0 (max widest column) rest).map fun lines ↦
        { lines with breaks := c :: lines.breaks }
    else some ⟨[], column, max widest column, c :: rest⟩

/-- The lines of a block scalar that have been read so far. -/
structure BlockLines where
  value : Text
  /-- The break behind the last line. -/
  lastBreak : Text
  /-- The breaks of the empty lines behind it. -/
  breaks : Text
  rest : Text
deriving DecidableEq, Repr

/-- What stands between two lines of a block scalar. A folded scalar turns the break between two
lines that begin with no blank into a blank, or into nothing if there are empty lines between. -/
def blockJoint (folded : Bool) (lastBreak breaks : Text) (blankBefore blankBehind : Bool) : Text :=
  if folded && lastBreak == ['\n'] && !blankBefore && !blankBehind then
    if breaks.isEmpty then [' '] else breaks
  else lastBreak ++ breaks

/-- Takes the lines of a block scalar off a text, behind the empty lines in front of them. -/
def blockLines? (folded : Bool) (indent : Nat) :
    Nat → Text → Text → Bool → EmptyLines → Option BlockLines
  | 0, _, _, _, _ => none
  | fuel + 1, value, lastBreak, blankBefore, lines =>
    match lines.rest with
    | [] => some ⟨value, lastBreak, lines.breaks, []⟩
    | c :: _ =>
      if lines.column ≠ indent then some ⟨value, lastBreak, lines.breaks, lines.rest⟩
      else do
        let joint := blockJoint folded lastBreak lines.breaks blankBefore (isBlank c)
        let line := lines.rest.takeWhile (!isBreak ·)
        let behind := lines.rest.dropWhile (!isBreak ·)
        let next ← emptyLines? (some indent) 0 0 (behind.drop 1)
        blockLines? folded indent fuel (value ++ joint ++ line) (behind.take 1) (isBlank c) next

/-- Takes a block scalar off a text that begins behind its indicator. -/
def blockRest? (folded : Bool) (surrounding : Int) (text : Text) : Option (Text × Text) := do
  let (head, rest) ← blockHead? text
  let rest ← dropEmptyLine? rest
  let given := head.increment.map fun increment ↦ (max surrounding 0).toNat + increment
  let lines ← emptyLines? given 0 0 rest
  let indent := given.getD (max lines.widest (max (surrounding + 1) 1).toNat)
  let read ← blockLines? folded indent (rest.length + 1) [] [] false lines
  let tail := match head.chomping with
    | .strip => []
    | .clip => read.lastBreak
    | .keep => read.lastBreak ++ read.breaks
  return (read.value ++ tail, read.rest)

end SocketMetrics.Yaml
