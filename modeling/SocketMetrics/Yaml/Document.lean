import SocketMetrics.Number.Decimal
import SocketMetrics.Settings
import SocketMetrics.Yaml.Layout
import SocketMetrics.Yaml.Meaning
import SocketMetrics.Yaml.Node
/-!
Whole YAML files. A file holds one document, or none, in which case it gives no settings. What a
scalar can be taken for depends on how it is written and on its tag.
-/

set_option autoImplicit false
set_option relaxedAutoImplicit false

namespace SocketMetrics.Yaml

open Number

/-- The beginning of the tags that the format itself defines. -/
def standardTag (name : String) : Text :=
  "tag:yaml.org,2002:".toList ++ name.toList

/-- The handles that need no directive. -/
def standardHandles : List (Text × Text) :=
  [(['!'], ['!']), (['!', '!'], standardTag "")]

/-- The versions and the handles that directives give, with the tokens behind them. -/
def directives : List Token → List (Nat × Nat) × List (Text × Text) × List Token
  | .version major minor :: rest =>
    let (versions, handles, rest) := directives rest
    ((major, minor) :: versions, handles, rest)
  | .handle handle meaning :: rest =>
    let (versions, handles, rest) := directives rest
    (versions, (handle, meaning) :: handles, rest)
  | rest => ([], [], rest)

/-- Whether the versions in front of a document are known: there is at most one. -/
def knownVersions : List (Nat × Nat) → Bool
  | [] => true
  | [(major, minor)] => major == 1 && (minor == 1 || minor == 2)
  | _ => false

/-- Whether a token stands in front of a document or behind one. -/
def isOutside (token : Token) : Bool :=
  token matches .version _ _ | .handle _ _ | .documentStart | .documentEnd

/-- Reads the content of a document, which may be empty behind the mark at its start. -/
def root? (handles : List (Text × Text)) (marked : Bool) (tokens : List Token) :
    Option (Node × Remainder) :=
  if marked && tokens.head?.all isOutside then some (.empty, ⟨tokens, []⟩)
  else node? (handles ++ standardHandles) (4 * tokens.length + 4) .item ⟨tokens, []⟩

/-- The content of the only document, or an empty node if there is no document. -/
def Node.ofTokens? (tokens : List Token) : Option Node := do
  let (versions, handles, rest) := directives tokens
  if tokens.isEmpty then return .empty
  else if !knownVersions versions || (handles.map Prod.fst).eraseDups.length ≠ handles.length then
    none
  else
    let (root, remainder) ← match rest with
      | .documentStart :: rest => root? handles true rest
      | _ => if rest.length = tokens.length then root? [] false rest else none
    if remainder.tokens.all (· == .documentEnd) then some root else none

/-- The content of the document that a text denotes. -/
def Node.ofText? (text : Text) : Option Node := do
  Node.ofTokens? (← tokens? text)

/-- Whether a scalar may be a number: any plain one, or a literal one with the tag of its kind. -/
def mayBeNumber (tag : Option Text) (style : Style) (kind : String) : Bool :=
  style == .plain || (style == .literal && tag == some (standardTag kind))

/-- What a scalar can be taken for. -/
def scalarCandidate (tag : Option Text) (style : Style) (text : Text) : Candidate :=
  let tag := tag.filter (· != ['!'])
  let isNull := tag == some (standardTag "null")
  if style == .plain && isNull && !isNullName text then .unusable
  else
    { isAbsent := style == .plain &&
        (isNull || (tag.isNone && (text.isEmpty || isNullName text)))
      number := if mayBeNumber tag style "float" then float? text else none
      count := if mayBeNumber tag style "int" then (natural? text).bind toCount? else none
      text := some text }

/-- What a node can be taken for. -/
def Node.candidate : Node → Candidate
  | scalar tag style text => scalarCandidate tag style text
  | sequence _ | mapping _ | surrounding => .unusable

/-- The name that a node is as a key. -/
def Node.name? : Node → Option Text
  | scalar _ _ text => some text
  | sequence _ | mapping _ | surrounding => none

/-- The settings in a file. -/
def candidates? (text : Text) : Option Candidates := do
  match ← Node.ofText? text with
  | .mapping pairs =>
    pairs.mapM fun (key, value) ↦ key.name?.map fun name ↦ (name, value.candidate)
  | .scalar _ .plain [] => some []
  | _ => none

end SocketMetrics.Yaml
