import SocketMetrics.Yaml.Token
/-!
Nodes of YAML: scalars, sequences and mappings. An alias is replaced by the node whose anchor it
names; where that node is a collection around the alias itself, only the fact is kept.
-/

set_option autoImplicit false
set_option relaxedAutoImplicit false

namespace SocketMetrics.Yaml

/-- A node. -/
inductive Node where
  | scalar (tag : Option Text) (style : Style) (text : Text)
  | sequence (items : List Node)
  | mapping (pairs : List (Node × Node))
  /-- The collection around the alias that stands here. -/
  | surrounding

/-- A node of which nothing is written. -/
def Node.empty : Node := .scalar none .plain []

/-- What stands in front of a node. -/
structure Properties where
  anchor : Option Text
  tag : Option Text
deriving DecidableEq, Repr

/-- The full tag, if its handle is known. -/
def TagName.resolve? (handles : List (Text × Text)) (name : TagName) : Option Text :=
  if name.handle.isEmpty then some name.suffix
  else (handles.lookup name.handle).map (· ++ name.suffix)

/-- Takes the properties of a node off a list of tokens. -/
def properties? (handles : List (Text × Text)) :
    List Token → Option (Properties × List Token)
  | .anchor anchor :: .tag name :: rest | .tag name :: .anchor anchor :: rest =>
    (name.resolve? handles).map fun tag ↦ (⟨anchor, tag⟩, rest)
  | .anchor anchor :: rest => some (⟨anchor, none⟩, rest)
  | .tag name :: rest => (name.resolve? handles).map fun tag ↦ (⟨none, tag⟩, rest)
  | rest => some (⟨none, none⟩, rest)

/-- Where a node stands. -/
inductive Place where
  /-- Between brackets or braces. -/
  | flow
  /-- Alone, or as an item of a block sequence. -/
  | item
  /-- As the key or the value of a block mapping, where a block sequence need not be indented. -/
  | pair
deriving DecidableEq, Repr

/-- Tokens that are still to be read, and the nodes that have got anchors so far. -/
structure Remainder where
  tokens : List Token
  anchors : List (Text × Node)

namespace Remainder

/-- Whether the test holds for the next token. -/
def next (remainder : Remainder) (test : Token → Bool) : Bool :=
  remainder.tokens.head?.any test

/-- The same with other tokens to read. -/
def goOn (remainder : Remainder) (tokens : List Token) : Remainder :=
  { remainder with tokens }

/-- Gives a node that is not read yet its anchor, if it has one. -/
def announce (remainder : Remainder) (anchor : Option Text) : Remainder :=
  { remainder with anchors :=
      remainder.anchors ++ (anchor.map fun name ↦ (name, Node.surrounding)).toList }

/-- Puts a node that has been read behind its anchor, which is the one behind so many others. -/
def settle (remainder : Remainder) (count : Nat) (anchor : Option Text) (node : Node) :
    Remainder :=
  match anchor with
  | none => remainder
  | some name => { remainder with anchors := remainder.anchors.set count (name, node) }

/-- The latest node that has got the anchor. -/
def find? (remainder : Remainder) (name : Text) : Option Node :=
  remainder.anchors.reverse.lookup name

end Remainder

/-- Whether a token ends the item of a block sequence that is indented. -/
def endsItem (token : Token) : Bool :=
  token matches .blockEntry | .blockEnd

/-- Whether a token ends the item of a block sequence that is not indented. -/
def endsLooseItem (token : Token) : Bool :=
  token matches .blockEntry | .key | .value | .blockEnd

/-- Whether a token ends the key or the value of a block mapping. -/
def endsBlockPart (token : Token) : Bool :=
  token matches .key | .value | .blockEnd

/-- Whether a token ends the value of a pair between brackets or braces. -/
def endsFlowValue (token : Token) : Bool :=
  token matches .flowEntry | .flowSequenceEnd | .flowMappingEnd

/-- Whether a token ends the key of a pair between brackets or braces. -/
def endsFlowKey (token : Token) : Bool :=
  token == .value || endsFlowValue token

mutual

/-- Reads a node. -/
def node? (handles : List (Text × Text)) :
    Nat → Place → Remainder → Option (Node × Remainder)
  | 0, _, _ => none
  | fuel + 1, place, remainder =>
    match remainder.tokens with
    | .alias name :: rest => (remainder.find? name).map fun node ↦ (node, remainder.goOn rest)
    | tokens => do
      let (properties, rest) ← properties? handles tokens
      let (node, behind) ← content? handles fuel place properties
        ((remainder.goOn rest).announce properties.anchor)
      return (node, behind.settle remainder.anchors.length properties.anchor node)

/-- Reads what stands behind the properties of a node. -/
def content? (handles : List (Text × Text)) :
    Nat → Place → Properties → Remainder → Option (Node × Remainder)
  | 0, _, _, _ => none
  | fuel + 1, place, properties, remainder =>
    match remainder.tokens with
    | .scalar style text :: rest =>
      some (.scalar properties.tag style text, remainder.goOn rest)
    | .flowSequenceStart :: rest =>
      (flowItems? handles fuel true (remainder.goOn rest)).map fun (items, remainder) ↦
        (.sequence items, remainder)
    | .flowMappingStart :: rest =>
      (flowPairs? handles fuel true (remainder.goOn rest)).map fun (pairs, remainder) ↦
        (.mapping pairs, remainder)
    | tokens =>
      match place, tokens with
      | .pair, .blockEntry :: _ =>
        (looseItems? handles fuel remainder).map fun (items, remainder) ↦
          (.sequence items, remainder)
      | .item, .blockSequenceStart :: rest | .pair, .blockSequenceStart :: rest =>
        (items? handles fuel (remainder.goOn rest)).map fun (items, remainder) ↦
          (.sequence items, remainder)
      | .item, .blockMappingStart :: rest | .pair, .blockMappingStart :: rest =>
        (pairs? handles fuel (remainder.goOn rest)).map fun (pairs, remainder) ↦
          (.mapping pairs, remainder)
      | _, _ =>
        if properties.anchor.isSome || properties.tag.isSome then
          some (.scalar properties.tag .plain [], remainder)
        else none

/-- Reads a node, or an empty one where the next token ends it. -/
def part? (handles : List (Text × Text)) :
    Nat → Place → (Token → Bool) → Remainder → Option (Node × Remainder)
  | 0, _, _, _ => none
  | fuel + 1, place, ends, remainder =>
    if remainder.next ends then some (.empty, remainder) else node? handles fuel place remainder

/-- Reads the value of a pair, which is empty where no value is announced. -/
def announced? (handles : List (Text × Text)) :
    Nat → Place → (Token → Bool) → Remainder → Option (Node × Remainder)
  | 0, _, _, _ => none
  | fuel + 1, place, ends, remainder =>
    match remainder.tokens with
    | .value :: rest => part? handles fuel place ends (remainder.goOn rest)
    | _ => some (.empty, remainder)

/-- Reads the items of a block sequence and its end. -/
def items? (handles : List (Text × Text)) :
    Nat → Remainder → Option (List Node × Remainder)
  | 0, _ => none
  | fuel + 1, remainder =>
    match remainder.tokens with
    | .blockEntry :: rest => do
      let (item, remainder) ← part? handles fuel .item endsItem (remainder.goOn rest)
      let (items, remainder) ← items? handles fuel remainder
      return (item :: items, remainder)
    | .blockEnd :: rest => some ([], remainder.goOn rest)
    | _ => none

/-- Reads the items of a block sequence that is not indented. -/
def looseItems? (handles : List (Text × Text)) :
    Nat → Remainder → Option (List Node × Remainder)
  | 0, _ => none
  | fuel + 1, remainder =>
    match remainder.tokens with
    | .blockEntry :: rest => do
      let (item, remainder) ← part? handles fuel .item endsLooseItem (remainder.goOn rest)
      let (items, remainder) ← looseItems? handles fuel remainder
      return (item :: items, remainder)
    | _ => some ([], remainder)

/-- Reads the pairs of a block mapping and its end. -/
def pairs? (handles : List (Text × Text)) :
    Nat → Remainder → Option (List (Node × Node) × Remainder)
  | 0, _ => none
  | fuel + 1, remainder =>
    match remainder.tokens with
    | .key :: rest => do
      let (key, remainder) ← part? handles fuel .pair endsBlockPart (remainder.goOn rest)
      let (value, remainder) ← announced? handles fuel .pair endsBlockPart remainder
      let (pairs, remainder) ← pairs? handles fuel remainder
      return ((key, value) :: pairs, remainder)
    | .blockEnd :: rest => some ([], remainder.goOn rest)
    | _ => none

/-- Reads the items between brackets and the closing one. -/
def flowItems? (handles : List (Text × Text)) :
    Nat → Bool → Remainder → Option (List Node × Remainder)
  | 0, _, _ => none
  | fuel + 1, isFirst, remainder =>
    match isFirst, remainder.tokens with
    | _, .flowSequenceEnd :: rest => some ([], remainder.goOn rest)
    | false, .flowEntry :: rest => flowItems? handles fuel true (remainder.goOn rest)
    | false, _ => none
    | true, .key :: rest => do
      let (pair, remainder) ← lonePair? handles fuel (remainder.goOn rest)
      let (items, remainder) ← flowItems? handles fuel false remainder
      return (.mapping [pair] :: items, remainder)
    | true, _ => do
      let (item, remainder) ← node? handles fuel .flow remainder
      let (items, remainder) ← flowItems? handles fuel false remainder
      return (item :: items, remainder)

/-- Reads a pair that is an item between brackets. Where its key is empty, the next token counts
for nothing. -/
def lonePair? (handles : List (Text × Text)) :
    Nat → Remainder → Option ((Node × Node) × Remainder)
  | 0, _ => none
  | fuel + 1, remainder => do
    let (key, remainder) ←
      if remainder.next fun token ↦ token matches .value | .flowEntry | .flowSequenceEnd then
        some (Node.empty, remainder.goOn (remainder.tokens.drop 1))
      else node? handles fuel .flow remainder
    let (value, remainder) ← announced? handles fuel .flow endsFlowValue remainder
    return ((key, value), remainder)

/-- Reads the pairs between braces and the closing one. -/
def flowPairs? (handles : List (Text × Text)) :
    Nat → Bool → Remainder → Option (List (Node × Node) × Remainder)
  | 0, _, _ => none
  | fuel + 1, isFirst, remainder =>
    match isFirst, remainder.tokens with
    | _, .flowMappingEnd :: rest => some ([], remainder.goOn rest)
    | false, .flowEntry :: rest => flowPairs? handles fuel true (remainder.goOn rest)
    | false, _ => none
    | true, .key :: rest => do
      let (key, remainder) ← part? handles fuel .flow endsFlowKey (remainder.goOn rest)
      let (value, remainder) ← announced? handles fuel .flow endsFlowValue remainder
      let (pairs, remainder) ← flowPairs? handles fuel false remainder
      return ((key, value) :: pairs, remainder)
    | true, _ => do
      let (key, remainder) ← node? handles fuel .flow remainder
      let (pairs, remainder) ← flowPairs? handles fuel false remainder
      return ((key, .empty) :: pairs, remainder)

end

end SocketMetrics.Yaml
