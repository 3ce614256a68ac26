import SocketMetrics.Number.Binary64
import SocketMetrics.Text.Raw
/-!
Settings as they stand in files, before anything is known about their meaning. A value that is
written has one kind; a value that was read may be taken for several, so that it is up to the
setting which of them counts.
-/

set_option autoImplicit false
set_option relaxedAutoImplicit false

namespace SocketMetrics

open Number

/-- A value to write. -/
inductive Setting where
  | absent
  | number (value : Binary64)
  | count (value : UInt64)
  | text (value : Text)
deriving DecidableEq, Repr

/-- The values to write, by their names. -/
abbrev Settings := List (Text × Setting)

/-- What a value that was read can be taken for. -/
structure Candidate where
  isAbsent : Bool
  number : Option Binary64
  count : Option UInt64
  text : Option Text
deriving DecidableEq, Repr

namespace Candidate

/-- A value that says that there is none. -/
def absent : Candidate := ⟨true, none, none, none⟩

/-- A value that no setting accepts. -/
def unusable : Candidate := ⟨false, none, none, none⟩

/-- The path that a value can be taken for. -/
def path (candidate : Candidate) : Option RawText :=
  candidate.text.map RawText.ofText

/-- A value that can be nothing but text. -/
def ofText (text : Text) : Candidate := ⟨false, none, none, some text⟩

end Candidate

/-- The values that were read, by their names, in the order of the file. -/
abbrev Candidates := List (Text × Candidate)

end SocketMetrics
