import SocketMetrics.Text.Basic
/-!
The words of a YAML text. Most of them are marks of which some are written and others follow from
indentation; anchors, aliases, tags and scalars carry text.
-/

set_option autoImplicit false
set_option relaxedAutoImplicit false

namespace SocketMetrics.Yaml

/-- How a scalar is written. -/
inductive Style where
  | plain
  | singleQuoted
  | doubleQuoted
  | literal
  | folded
deriving DecidableEq, Repr

/-- A tag as it is written: a name behind a handle that stands for its beginning. An empty handle
stands for nothing. -/
structure TagName where
  handle : Text
  suffix : Text
deriving DecidableEq, Repr

/-- A word of a text. -/
inductive Token where
  | version (major minor : Nat)
  /-- The text for which a handle stands. -/
  | handle (handle meaning : Text)
  | documentStart
  | documentEnd
  | blockSequenceStart
  | blockMappingStart
  | blockEnd
  | flowSequenceStart
  | flowSequenceEnd
  | flowMappingStart
  | flowMappingEnd
  | blockEntry
  | flowEntry
  | key
  | value
  | alias (name : Text)
  | anchor (name : Text)
  | tag (name : TagName)
  | scalar (style : Style) (text : Text)
deriving DecidableEq, Repr

end SocketMetrics.Yaml
