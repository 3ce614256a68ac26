import SocketMetrics.Log
import SocketMetrics.Pass.Part
import SocketMetrics.Channel.Source
/-!
One pass over both sources: the summary is read and published, then the table, and both streams
are flushed. Whatever is wrong with a source becomes messages; a pass fails only when a stream
does, and it ends there. All metrics of a pass bear the same time.
-/

set_option autoImplicit false
set_option relaxedAutoImplicit false

namespace SocketMetrics

open Channel Number

namespace Pass

/-- The account of a pass that succeeded. -/
structure Report where
  timestamp : Int
  /-- The number of metric lines. -/
  emitted : Nat
  /-- The number of messages. -/
  diagnostics : Nat
  sockstatOk : Bool
  netstatOk : Bool
deriving DecidableEq, Repr

/-- The record in which a finished pass is logged. -/
def Report.record (report : Report) : Log.Record where
  level := .debug
  message :=
    "Pass at ".toList ++ decimalInt report.timestamp ++ " emitted ".toList
      ++ decimal report.emitted ++ " metrics with ".toList ++ decimal report.diagnostics
      ++ " diagnostics".toList

end Pass

/-- What a pass leaves behind. -/
structure Pass where
  sources : Sources
  streams : Streams
  outcome : Except Fault Pass.Report
  log : List Log.Record

namespace Pass

/-- A pass that ended with the fault of a stream. -/
def failed (sources : Sources) (emitter : Emitter) (fault : Fault) : Pass :=
  ⟨sources, emitter.streams, .error fault, []⟩

/-- Runs a pass. The table is not even rewound when publishing the summary fails. -/
def run (sources : Sources) (streams : Streams) (timestamp : Int) (pageSize : UInt64) : Pass :=
  let summary := sources.sockstat.reread
  let sources := { sources with sockstat := summary.source }
  let sockstat := sockstatPart timestamp pageSize summary.content
  match (Emitter.start streams timestamp).deliver sockstat.entries with
  | (emitter, some fault) => failed sources emitter fault
  | (emitter, none) =>
    let table := sources.netstat.reread
    let sources := { sources with netstat := table.source }
    let netstat := netstatPart timestamp table.content
    match emitter.deliver netstat.entries with
    | (emitter, some fault) => failed sources emitter fault
    | (emitter, none) =>
      match emitter.flush with
      | (emitter, some fault) => failed sources emitter fault
      | (emitter, none) =>
        let report : Report :=
          ⟨timestamp, emitter.emitted, emitter.diagnostics, sockstat.ok, netstat.ok⟩
        ⟨sources, emitter.streams, .ok report, [report.record]⟩

end Pass

end SocketMetrics
