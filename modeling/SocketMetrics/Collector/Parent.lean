import SocketMetrics.Log
import SocketMetrics.Text.Raw
/-!
The parent of the collector. A process whose parent exits gets another one, so the parent is alive
as long as its number stays the same. The kernel tells that number in the status line of the
process, behind the name of the program, which may itself hold any character.
-/

set_option autoImplicit false
set_option relaxedAutoImplicit false

namespace SocketMetrics.Collector

/-- Where the status line of the process itself stands. -/
def statusPath : RawText := .ofText "/proc/self/stat".toList

/-- The number of the parent in a status line: the second word behind the last parenthesis. -/
def parentNumber? (status : Text) : Option Text :=
  let behindName : Text := (status.reverse.takeWhile (· != ')')).reverse
  ((behindName.pieces (· == ' ')).filter fun word ↦ !word.isEmpty)[1]?

/-- The record about a parent that adopts every process without one. -/
def initRecord : Log.Record :=
  ⟨.warn, "Parent is init; a supervisor that already exited will not be detected".toList⟩

/-- What is logged about the parent when the collector starts. -/
def parentRecords (parent : Option Text) : List Log.Record :=
  if parent = some ['1'] then [initRecord] else []

end SocketMetrics.Collector
