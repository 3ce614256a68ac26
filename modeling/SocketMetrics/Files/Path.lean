import SocketMetrics.Text.Raw
/-!
Paths, which are bytes. Names are separated by slashes; an empty name or a single dot stays where it
is. The last name of a path may have an extension, which is what follows its last dot, unless
nothing stands before that dot.
-/

set_option autoImplicit false
set_option relaxedAutoImplicit false

namespace SocketMetrics.Files

/-- The byte between names. -/
def slash : UInt8 := '/'.toUInt8

/-- The byte in front of an extension. -/
def dot : UInt8 := '.'.toUInt8

/-- The name by which a directory leads to itself. -/
def here : RawText := ⟨[dot]⟩

/-- The name by which a directory leads to its parent. -/
def parent : RawText := ⟨[dot, dot]⟩

/-- The steps of a path, a final slash being a step to the directory itself. -/
def steps (path : RawText) : List RawText :=
  let names := (path.bytes.splitOnP (· == slash)).map RawText.mk
  let ending := if names.getLast? = some .empty then [here] else []
  names.filter (fun name ↦ name != .empty) ++ ending

/-- The last name of a path, unless the path leads to a parent. -/
def fileName? (path : RawText) : Option RawText :=
  ((steps path).filter fun name ↦ name != here).getLast?.filter fun name ↦ name != parent

/-- A name cut at its last dot. -/
def cutAtLastDot? (name : RawText) : Option (RawText × RawText) :=
  match name.bytes.reverse.span (· != dot) with
  | (_, []) => none
  | (ending, _ :: stem) => some (⟨stem.reverse⟩, ⟨ending.reverse⟩)

/-- The extension of the last name of a path. -/
def extension? (path : RawText) : Option RawText := do
  let (stem, extension) ← cutAtLastDot? (← fileName? path)
  if stem = .empty then none else some extension

end SocketMetrics.Files
