import SocketMetrics.Json.Token
import SocketMetrics.Settings
/-!
Values of JSON, and the settings that a JSON file gives. The file is an object with the settings as
members, or an array with the values of all settings in their order.
-/

set_option autoImplicit false
set_option relaxedAutoImplicit false

namespace SocketMetrics.Json

/-- A value. -/
inductive Value where
  | null
  | bool (value : Bool)
  | number (literal : NumberLiteral)
  | string (pieces : List Piece)
  | array (items : List Value)
  | object (members : List (List Piece × Value))

mutual

/-- Takes a value off the beginning of a list of tokens. -/
def value? : Nat → List Token → Option (Value × List Token)
  | 0, _ => none
  | fuel + 1, tokens =>
    match tokens with
    | .null :: rest => some (.null, rest)
    | .bool value :: rest => some (.bool value, rest)
    | .number literal :: rest => some (.number literal, rest)
    | .string pieces :: rest => some (.string pieces, rest)
    | .openArray :: .closeArray :: rest => some (.array [], rest)
    | .openArray :: rest => (items? fuel rest).map fun (items, rest) ↦ (.array items, rest)
    | .openObject :: .closeObject :: rest => some (.object [], rest)
    | .openObject :: rest =>
      (members? fuel rest).map fun (members, rest) ↦ (.object members, rest)
    | _ => none

/-- Takes the items of an array and its end off the beginning of a list of tokens. -/
def items? : Nat → List Token → Option (List Value × List Token)
  | 0, _ => none
  | fuel + 1, tokens => do
    let (item, rest) ← value? fuel tokens
    match rest with
    | .closeArray :: rest => some ([item], rest)
    | .comma :: rest => do
      let (items, rest) ← items? fuel rest
      some (item :: items, rest)
    | _ => none

/-- Takes the members of an object and its end off the beginning of a list of tokens. -/
def members? : Nat → List Token → Option (List (List Piece × Value) × List Token)
  | 0, _ => none
  | fuel + 1, tokens =>
    match tokens with
    | .string key :: .colon :: rest => do
      let (value, rest) ← value? fuel rest
      match rest with
      | .closeObject :: rest => some ([(key, value)], rest)
      | .comma :: rest => do
        let (members, rest) ← members? fuel rest
        some ((key, value) :: members, rest)
      | _ => none
    | _ => none

end

/-- The value that a text denotes. Two steps a token are enough to read it. -/
def Value.ofText? (text : Text) : Option Value := do
  let tokens ← tokens? text
  match value? (2 * tokens.length + 1) tokens with
  | some (value, []) => some value
  | _ => none

/-- What a value can be taken for. -/
def Value.candidate : Value → Candidate
  | null => .absent
  | number literal => ⟨false, literal.number?, literal.count?, none⟩
  | string pieces => ⟨false, none, none, joined? pieces⟩
  | bool _ | array _ | object _ => .unusable

/-- The settings in a file, whose names in their order are given for a file without names. -/
def candidates? (names : List Text) (text : Text) : Option Candidates := do
  match ← Value.ofText? text with
  | .object members =>
    members.mapM fun (key, value) ↦ (joined? key).map fun name ↦ (name, value.candidate)
  | .array items =>
    if items.length = names.length then some (names.zip (items.map Value.candidate)) else none
  | _ => none

end SocketMetrics.Json
