import SocketMetrics.Toml.Value
/-!
Whole TOML files. A file is a list of lines, each of which gives a value for a key or opens a
table. The settings are the values in front of the first table; tables are read and may not
contradict each other, but no setting is taken from them.
-/

set_option autoImplicit false
set_option relaxedAutoImplicit false

namespace SocketMetrics.Toml

/-- The line that opens a table. -/
structure Header where
  names : List Text
  /-- Whether the table is another item of an array of tables. -/
  isItem : Bool
deriving DecidableEq, Repr

/-- A table with its values. -/
structure Table where
  header : Header
  entries : Entries

/-- A file. -/
structure Document where
  /-- The values in front of the first table. -/
  root : Entries
  tables : List Table

/-- A line that says something. -/
inductive Line where
  | header (header : Header)
  | entry (key : List Text) (value : Value)

/-- Drops the end of a line that says something: blanks, and a comment if there is one. -/
def dropLineEnd? (tokens : List Token) : Option (List Token) :=
  match skipBlanks tokens with
  | [] | [.comment] => some []
  | .lineEnd :: rest | .comment :: .lineEnd :: rest => some rest
  | _ => none

/-- Takes the names of a header and the bracket behind them off a list of tokens. -/
def headerNames? (tokens : List Token) : Option (List Text × List Token) := do
  match ← key? tokens.length tokens with
  | (names, .closeBracket :: rest) => some (names, rest)
  | _ => none

/-- Takes a line off a list of tokens that begins with it. -/
def line? (tokens : List Token) : Option (Line × List Token) :=
  match tokens with
  | .openBracket :: .openBracket :: rest => do
    match ← headerNames? rest with
    | (names, .closeBracket :: rest) =>
      return (.header ⟨names, true⟩, ← dropLineEnd? rest)
    | _ => none
  | .openBracket :: rest => do
    let (names, rest) ← headerNames? rest
    return (.header ⟨names, false⟩, ← dropLineEnd? rest)
  | _ => do
    let (key, rest) ← key? tokens.length tokens
    let rest ← dropEquals? rest
    let (value, rest) ← value? (2 * rest.length + 1) rest
    return (.entry key value, ← dropLineEnd? rest)

/-- All lines that say something. -/
def lines? : Nat → List Token → Option (List Line)
  | 0, _ => none
  | fuel + 1, tokens =>
    match skipLines tokens with
    | [] => some []
    | rest => do
      let (line, rest) ← line? rest
      (lines? fuel rest).map (line :: ·)

/-- The file with a line taken up at its end. -/
def Document.add? (document : Document) : Line → Option Document
  | .header header => some { document with tables := document.tables ++ [⟨header, []⟩] }
  | .entry key value =>
    match document.tables.getLast? with
    | none => (insert? document.root key value).map fun root ↦ { document with root }
    | some table =>
      (insert? table.entries key value).map fun entries ↦
        { document with tables := document.tables.dropLast ++ [{ table with entries }] }

/-- Whether one list of names leads through another and farther. -/
def isWithin (inner outer : List Text) : Bool :=
  outer.isPrefixOf inner && outer.length < inner.length

/-- The headers that a later header has to agree with: those since the last item of an array of
tables through which the later header leads. -/
def contemporaries (earlier : List Header) (header : Header) : List Header :=
  (earlier.reverse.takeWhile fun other ↦
    !(other.isItem && isWithin header.names other.names)).reverse

/-- Whether a header contradicts an earlier one: a table is opened once, unless as items of an
array, and an array of tables is not begun when something within it is known already. -/
def contradicts (earlier : List Header) (header : Header) : Bool :=
  let others := contemporaries earlier header
  let same := others.filter fun other ↦ other.names == header.names
  same.any (fun other ↦ !(other.isItem && header.isItem)) ||
    (header.isItem && same.isEmpty && others.any fun other ↦ isWithin other.names header.names)

/-- Whether no header contradicts one in front of it. -/
def consistent : List Header → List Header → Bool
  | _, [] => true
  | earlier, header :: rest => !contradicts earlier header && consistent (earlier ++ [header]) rest

/-- The file that a text denotes. -/
def Document.ofText? (text : Text) : Option Document := do
  let tokens ← tokens? text
  let document ← (← lines? (tokens.length + 1) tokens).foldlM Document.add? ⟨[], []⟩
  if consistent [] (document.tables.map Table.header) then some document else none

/-- The settings in a file. A table stands under its first name like a value that no setting
accepts. -/
def candidates? (text : Text) : Option Candidates := do
  let document ← Document.ofText? text
  let tables := (document.tables.filterMap fun table ↦ table.header.names.head?).eraseDups
  return document.root.map (fun (name, value) ↦ (name, value.candidate))
    ++ tables.map fun name ↦ (name, .unusable)

end SocketMetrics.Toml
