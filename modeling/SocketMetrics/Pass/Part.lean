import SocketMetrics.Netstat.Metrics
import SocketMetrics.Sockstat.Layout
import SocketMetrics.Sockstat.Metrics
/-!
What each of the two sources contributes to a pass. A part depends on its own source alone: the
summary is published as a whole or replaced by one message, and the table is published after the
warnings about it or replaced, behind those warnings, by one message.
-/

set_option autoImplicit false
set_option relaxedAutoImplicit false

namespace SocketMetrics.Pass

open Channel

/-- The contribution of one source. -/
structure Part where
  entries : List Entry
  /-- Whether the source was read and understood. -/
  ok : Bool
deriving DecidableEq, Repr

/-- A part that consists of one message about its failure. -/
def Part.failure (message : Text) : Part :=
  ⟨[.diagnostic message], false⟩

/-- The contribution of the socket allocation summary. -/
def sockstatPart (timestamp : Int) (pageSize : UInt64) : Except Fault Text → Part
  | .error fault => .failure ("Failed to read sockstat: ".toList ++ fault.message)
  | .ok content =>
    match Sockstat.read content with
    | .error error => .failure error.message
    | .ok record => ⟨(Sockstat.samples timestamp record pageSize).map Entry.metric, true⟩

/-- The contribution of the protocol counter table. -/
def netstatPart (timestamp : Int) : Except Fault Text → Part
  | .error fault => .failure ("Failed to read netstat: ".toList ++ fault.message)
  | .ok content =>
    let reading := Netstat.Table.read content
    let warnings := reading.warnings.map fun warning ↦ Entry.diagnostic warning.message
    match reading.table with
    | .error error =>
      let failure := "Aborting netstat for this pass: ".toList ++ error.message
      ⟨warnings ++ [.diagnostic failure], false⟩
    | .ok table => ⟨warnings ++ table.entries timestamp, true⟩

end SocketMetrics.Pass
