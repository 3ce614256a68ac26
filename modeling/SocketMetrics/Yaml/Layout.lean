import SocketMetrics.Yaml.Property
/-!
How a YAML text falls into tokens. Where a word may turn out to be a key, its place is remembered,
so that the marks in front of the key can be put there when the colon behind it is met. Block
collections begin where indentation grows and end where it shrinks again; between brackets and
braces it does not count.
-/

set_option autoImplicit false
set_option relaxedAutoImplicit false

namespace SocketMetrics.Yaml

/-- A place in a text. -/
structure Position where
  line : Nat
  column : Nat
  /-- The number of characters in front of it. -/
  index : Nat
deriving DecidableEq, Repr

namespace Position

def start : Position := ⟨0, 0, 0⟩

/-- The place behind a character. -/
def next (position : Position) (c : Char) : Position :=
  if isBreak c then ⟨position.line + 1, 0, position.index + 1⟩
  else ⟨position.line, position.column + 1, position.index + 1⟩

end Position

/-- A place where a key may begin. -/
structure KeyStart where
  /-- Whether nothing but a key can stand there. -/
  required : Bool
  /-- The number of tokens in front of it. -/
  tokenCount : Nat
  position : Position
deriving DecidableEq, Repr

/-- Whether a key that began at a place would be too long by now: it has to end on its line, and
within so many characters. -/
def KeyStart.isPast (start : KeyStart) (position : Position) : Bool :=
  start.position.line < position.line || start.position.index + 1024 < position.index

/-- A text that is read up to a place. -/
structure Layout where
  rest : Text
  position : Position
  /-- The tokens in front of the place, the last one first. -/
  tokens : List Token
  /-- Where the key began whose colon may follow. -/
  keyStart : Option KeyStart
  /-- The same for the surroundings of each pair of brackets or braces around the place, from the
  inside out. -/
  outerKeyStarts : List (Option KeyStart)
  /-- The columns of the block collections around the place, from the inside out. -/
  columns : List Nat
  /-- Whether a key may begin at the place. -/
  keyAllowed : Bool
deriving DecidableEq, Repr

namespace Layout

/-- A text at its beginning. -/
def ofText (text : Text) : Layout :=
  ⟨text, .start, [], none, [], [], true⟩

/-- Whether there are brackets or braces around the place. -/
def inFlow (layout : Layout) : Bool :=
  !layout.outerKeyStarts.isEmpty

/-- The column of the innermost block collection. -/
def indent (layout : Layout) : Int :=
  match layout.columns with
  | [] => -1
  | column :: _ => column

/-- The place at which a given rest of the text begins. -/
def moveTo (layout : Layout) (rest : Text) : Layout :=
  let passed := layout.rest.take (layout.rest.length - rest.length)
  { layout with rest, position := passed.foldl Position.next layout.position }

def addToken (layout : Layout) (token : Token) : Layout :=
  { layout with tokens := token :: layout.tokens }

/-- A token put behind so many others. -/
def insertToken (layout : Layout) (count : Nat) (token : Token) : Layout :=
  let behind := layout.tokens.length - count
  { layout with tokens := layout.tokens.take behind ++ token :: layout.tokens.drop behind }

def allowKey (layout : Layout) (keyAllowed : Bool) : Layout :=
  { layout with keyAllowed }

/-- Gives up the key that may have begun, unless it had to be one. -/
def dropKey? (layout : Layout) : Option Layout :=
  if layout.keyStart.any KeyStart.required then none
  else some { layout with keyStart := none }

/-- Remembers the place if a key may begin there. -/
def rememberKey? (layout : Layout) : Option Layout :=
  if layout.keyAllowed then
    let required := !layout.inFlow && layout.indent == layout.position.column
    layout.dropKey?.map fun layout ↦
      { layout with keyStart := some ⟨required, layout.tokens.length, layout.position⟩ }
  else some layout

/-- Gives up all keys that would be too long by now. -/
def dropPastKeys? (layout : Layout) : Option Layout :=
  let isPast := fun start : KeyStart ↦ start.isPast layout.position
  let isLost := fun start : KeyStart ↦ start.required && isPast start
  if (layout.keyStart :: layout.outerKeyStarts).any (·.any isLost) then none
  else some { layout with
    keyStart := layout.keyStart.filter (!isPast ·)
    outerKeyStarts := layout.outerKeyStarts.map (·.filter (!isPast ·)) }

/-- Opens a block collection at a column, behind so many tokens, if the column lies farther than
that of the innermost one. -/
def openBlock (layout : Layout) (column count : Nat) (token : Token) : Layout :=
  if !layout.inFlow && layout.indent < column then
    { layout.insertToken count token with columns := column :: layout.columns }
  else layout

/-- Ends the block collections that the test holds for, from the inside out. -/
def closeBlocks (layout : Layout) (closes : Nat → Bool) : Layout :=
  if layout.inFlow then layout
  else
    let closed := layout.columns.takeWhile closes
    { layout with
      columns := layout.columns.dropWhile closes
      tokens := closed.map (fun _ ↦ .blockEnd) ++ layout.tokens }

/-- Skips what stands between tokens. A line break allows a key to begin outside of brackets and
braces, and where one may begin no tab is skipped. -/
def skipGap (inFlow keyAllowed inComment : Bool) : Text → Bool × Text
  | [] => (keyAllowed, [])
  | c :: rest =>
    if isBreak c then skipGap inFlow (keyAllowed || !inFlow) false rest
    else if inComment then skipGap inFlow keyAllowed true rest
    else if c == '#' then skipGap inFlow keyAllowed true rest
    else if c == ' ' || (c == '\t' && (inFlow || !keyAllowed)) then
      skipGap inFlow keyAllowed false rest
    else (keyAllowed, c :: rest)

/-- Goes on to the next token, and ends the block collections whose columns lie farther. -/
def approach? (layout : Layout) : Option Layout := do
  let (keyAllowed, rest) := skipGap layout.inFlow layout.keyAllowed false layout.rest
  let layout ← ((layout.moveTo rest).allowKey keyAllowed).dropPastKeys?
  return layout.closeBlocks fun column ↦ decide (layout.position.column < column)

/-- Ends all block collections and gives up the key that may have begun. -/
def closeAll? (layout : Layout) : Option Layout :=
  (layout.closeBlocks fun _ ↦ true).dropKey?

/-- Reads a mark between documents. -/
def readDocumentMark? (layout : Layout) (token : Token) : Option Layout := do
  let layout ← layout.closeAll?
  return ((layout.allowKey false).addToken token).moveTo (layout.rest.drop 3)

/-- Reads a directive. -/
def readDirective? (layout : Layout) (rest : Text) : Option Layout := do
  let layout ← layout.closeAll?
  let (token, rest) ← directive? rest
  return ((layout.allowKey false).addToken token).moveTo rest

/-- Reads an opening bracket or brace. -/
def readOpening? (layout : Layout) (token : Token) (rest : Text) : Option Layout := do
  let layout ← layout.rememberKey?
  return ({ layout with
    keyStart := none
    outerKeyStarts := layout.keyStart :: layout.outerKeyStarts
    keyAllowed := true }.addToken token).moveTo rest

/-- Reads a closing bracket or brace. -/
def readClosing? (layout : Layout) (token : Token) (rest : Text) : Option Layout := do
  let layout ← layout.dropKey?
  let layout := match layout.outerKeyStarts with
    | [] => layout
    | keyStart :: outerKeyStarts => { layout with keyStart, outerKeyStarts }
  return ((layout.allowKey false).addToken token).moveTo rest

/-- Reads a comma between items. -/
def readFlowEntry? (layout : Layout) (rest : Text) : Option Layout := do
  return (((← layout.dropKey?).allowKey true).addToken .flowEntry).moveTo rest

/-- Opens a block collection at the place, where it has to be allowed. -/
def openBlockHere? (layout : Layout) (token : Token) : Option Layout :=
  if layout.inFlow then some layout
  else if layout.keyAllowed then
    some (layout.openBlock layout.position.column layout.tokens.length token)
  else none

/-- Reads the mark of an item of a block sequence. -/
def readBlockEntry? (layout : Layout) (rest : Text) : Option Layout := do
  let layout ← (← layout.openBlockHere? .blockSequenceStart).dropKey?
  return ((layout.allowKey true).addToken .blockEntry).moveTo rest

/-- Reads the mark of a key. -/
def readKey? (layout : Layout) (rest : Text) : Option Layout := do
  let layout ← (← layout.openBlockHere? .blockMappingStart).dropKey?
  return ((layout.allowKey (!layout.inFlow)).addToken .key).moveTo rest

/-- Reads the mark of a value. If a key may have begun, now it did. -/
def readValue? (layout : Layout) (rest : Text) : Option Layout := do
  let layout ← match layout.keyStart with
    | some start =>
      let layout := (layout.insertToken start.tokenCount .key).openBlock start.position.column
        start.tokenCount .blockMappingStart
      some { layout with keyStart := none, keyAllowed := false }
    | none =>
      (layout.openBlockHere? .blockMappingStart).map fun layout ↦
        layout.allowKey (!layout.inFlow)
  return (layout.addToken .value).moveTo rest

/-- Reads a token that may begin a key. -/
def readKeyStart? (layout : Layout) (token : Token) (rest : Text) : Option Layout := do
  return (((← layout.rememberKey?).allowKey false).addToken token).moveTo rest

/-- Reads a block scalar. -/
def readBlockScalar? (layout : Layout) (style : Style) (rest : Text) : Option Layout := do
  let layout ← layout.dropKey?
  let (text, rest) ← blockRest? (style == .folded) layout.indent rest
  return ((layout.allowKey true).addToken (.scalar style text)).moveTo rest

/-- Reads a plain scalar. If the gap behind it leads to another line, a key may begin there. -/
def readPlain? (layout : Layout) : Option Layout := do
  let plain ← plainRest? layout.inFlow (layout.indent + 1) layout.position.column false .none
    layout.rest
  let layout ← layout.readKeyStart? (.scalar .plain plain.value) plain.rest
  return layout.allowKey plain.broken

/-- Whether a plain scalar may begin with a character that something follows. -/
def startsPlain (inFlow : Bool) (c : Char) (rest : Text) : Bool :=
  match c with
  | '-' => true
  | '?' | ':' => !inFlow
  | '#' | '&' | '*' | '!' | '|' | '>' | '\'' | '"' | '%' | '@' | '\x60' => false
  | _ => !isFlowIndicator c && !endsWord (c :: rest)

/-- Reads the token at the place, which is not at the end of the text. -/
def read? (layout : Layout) (c : Char) (rest : Text) : Option Layout :=
  let first := layout.position.column == 0
  if first && c == '%' then layout.readDirective? rest
  else if first && atDocumentStart layout.rest then layout.readDocumentMark? .documentStart
  else if first && atDocumentEnd layout.rest then layout.readDocumentMark? .documentEnd
  else match c with
  | '[' => layout.readOpening? .flowSequenceStart rest
  | '\x7b' => layout.readOpening? .flowMappingStart rest
  | ']' => layout.readClosing? .flowSequenceEnd rest
  | '\x7d' => layout.readClosing? .flowMappingEnd rest
  | ',' => layout.readFlowEntry? rest
  | '*' => do
    let (name, rest) ← anchorName? rest
    layout.readKeyStart? (.alias name) rest
  | '&' => do
    let (name, rest) ← anchorName? rest
    layout.readKeyStart? (.anchor name) rest
  | '!' => do
    let (name, rest) ← tag? layout.inFlow rest
    layout.readKeyStart? (.tag name) rest
  | '\'' => do
    let (text, rest) ← singleRest? false .none rest
    layout.readKeyStart? (.scalar .singleQuoted text) rest
  | '"' => do
    let (text, rest) ← doubleRest? false .none rest
    layout.readKeyStart? (.scalar .doubleQuoted text) rest
  | _ =>
    if c == '-' && endsWord rest then layout.readBlockEntry? rest
    else if c == '?' && (layout.inFlow || endsWord rest) then layout.readKey? rest
    else if c == ':' && (layout.inFlow || endsWord rest) then layout.readValue? rest
    else if c == '|' && !layout.inFlow then layout.readBlockScalar? .literal rest
    else if c == '>' && !layout.inFlow then layout.readBlockScalar? .folded rest
    else if startsPlain layout.inFlow c rest then layout.readPlain?
    else none

/-- All tokens, given at least as much fuel as there are characters left, and one more. -/
def tokens? : Nat → Layout → Option (List Token)
  | 0, _ => none
  | fuel + 1, layout => do
    let layout ← layout.approach?
    match layout.rest with
    | [] => return (← layout.closeAll?).tokens.reverse
    | c :: rest => tokens? fuel (← layout.read? c rest)

end Layout

/-- The tokens of a text, if it falls into tokens. A byte order mark may stand in front. -/
def tokens? (text : Text) : Option (List Token) :=
  if text.all isAllowed then
    let folded := foldBreaks text
    let folded := if folded.head? = some '\ufeff' then folded.drop 1 else folded
    Layout.tokens? (folded.length + 1) (.ofText folded)
  else none

end SocketMetrics.Yaml
