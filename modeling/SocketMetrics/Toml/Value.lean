import SocketMetrics.Settings
import SocketMetrics.Toml.Scalar
/-!
Values and keys of TOML. A key may lead through several tables; those that it opens on its way can
be entered again by later keys, and nothing else can.
-/

set_option autoImplicit false
set_option relaxedAutoImplicit false

namespace SocketMetrics.Toml

open Number

/-- A value. -/
inductive Value where
  | text (value : Text)
  | bool (value : Bool)
  | scalar (value : Scalar)
  | array (items : List Value)
  /-- A table between braces. -/
  | inline (entries : List (Text × Value))
  /-- A table that keys with several names have opened. -/
  | opened (entries : List (Text × Value))

/-- The values of a table, by their keys. -/
abbrev Entries := List (Text × Value)

/-- The first value with a key, with the entries in front of it and behind it. -/
def cutAt? (key : Text) : Entries → Option (Entries × Value × Entries)
  | [] => none
  | (name, value) :: rest =>
    if name = key then some ([], value, rest)
    else (cutAt? key rest).map fun (before, found, behind) ↦
      ((name, value) :: before, found, behind)

/-- Adds a value under a key that leads through the given tables. -/
def insert? (entries : Entries) : List Text → Value → Option Entries
  | [], _ => none
  | [name], value => some (entries ++ [(name, value)])
  | name :: path, value =>
    match cutAt? name entries with
    | some (before, .opened inner, behind) =>
      (insert? inner path value).map fun inner ↦ before ++ (name, .opened inner) :: behind
    | some _ => none
    | none => (insert? [] path value).map fun inner ↦ entries ++ [(name, .opened inner)]

/-- The tokens behind the blanks of a line. -/
def skipBlanks (tokens : List Token) : List Token :=
  tokens.dropWhile fun token ↦ token matches .blank _

/-- The tokens behind blanks, comments and line ends. -/
def skipLines (tokens : List Token) : List Token :=
  tokens.dropWhile fun token ↦ token matches .blank _ | .comment | .lineEnd

/-- Takes one name of a key off a list of tokens. -/
def name? : List Token → Option (Text × List Token)
  | .bare word :: rest => some (word, rest)
  | .string value false :: rest => some (value, rest)
  | _ => none

/-- Takes a key off a list of tokens, with the blanks behind it. -/
def key? : Nat → List Token → Option (List Text × List Token)
  | 0, _ => none
  | fuel + 1, tokens => do
    let (name, rest) ← name? (skipBlanks tokens)
    match skipBlanks rest with
    | .period :: rest => (key? fuel rest).map fun (names, rest) ↦ (name :: names, rest)
    | rest => some ([name], rest)

/-- Drops the equals sign behind a key, with the blanks behind it. -/
def dropEquals? : List Token → Option (List Token)
  | .equals :: rest => some (skipBlanks rest)
  | _ => none

mutual

/-- Takes a value off a list of tokens. -/
def value? : Nat → List Token → Option (Value × List Token)
  | 0, _ => none
  | fuel + 1, tokens =>
    match tokens with
    | .string value _ :: rest => some (.text value, rest)
    | .plus :: .bare word :: rest => (number? word rest).map fun (n, rest) ↦ (.scalar n, rest)
    | .bare word :: rest =>
      if word = "true".toList then some (.bool true, rest)
      else if word = "false".toList then some (.bool false, rest)
      else if beginsNumber word then
        (scalar? word rest).map fun (value, rest) ↦ (.scalar value, rest)
      else none
    | .openBracket :: rest =>
      (items? fuel (skipLines rest)).map fun (items, rest) ↦ (.array items, rest)
    | .openBrace :: rest =>
      match skipBlanks rest with
      | .closeBrace :: rest => some (.inline [], rest)
      | rest => (pairs? fuel [] rest).map fun (entries, rest) ↦ (.inline entries, rest)
    | _ => none

/-- Takes the items of an array and its end off a list of tokens. -/
def items? : Nat → List Token → Option (List Value × List Token)
  | 0, _ => none
  | fuel + 1, tokens =>
    match tokens with
    | .closeBracket :: rest => some ([], rest)
    | _ => do
      let (item, rest) ← value? fuel tokens
      match skipLines rest with
      | .comma :: rest => do
        let (items, rest) ← items? fuel (skipLines rest)
        some (item :: items, rest)
      | .closeBracket :: rest => some ([item], rest)
      | _ => none

/-- Takes the entries of a table between braces and its end off a list of tokens. -/
def pairs? : Nat → Entries → List Token → Option (Entries × List Token)
  | 0, _, _ => none
  | fuel + 1, entries, tokens => do
    let (key, rest) ← key? tokens.length tokens
    let (value, rest) ← value? fuel (← dropEquals? rest)
    let entries ← insert? entries key value
    match skipBlanks rest with
    | .closeBrace :: rest => some (entries, rest)
    | .comma :: rest => pairs? fuel entries rest
    | _ => none

end

/-- What a value can be taken for. -/
def Value.candidate : Value → Candidate
  | text value => .ofText value
  | scalar (.integer value) =>
    ⟨false, some (.ofRatio (decide (value < 0)) value.natAbs 1),
      if 0 ≤ value then toCount? value.natAbs else none, none⟩
  | scalar (.float value) => ⟨false, some value, none, none⟩
  | scalar .date | bool _ | array _ | inline _ | opened _ => .unusable

end SocketMetrics.Toml
