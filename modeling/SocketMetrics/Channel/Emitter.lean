import SocketMetrics.Sample
import SocketMetrics.Channel.Sink
/-!
Writing metrics and diagnostics of one time. The emitter counts what it has written in full, and a
step that fails changes no count. Absent values are passed over in silence.
-/

set_option autoImplicit false
set_option relaxedAutoImplicit false

namespace SocketMetrics.Channel

/-- One thing to write. -/
inductive Entry where
  /-- A metric line, for the output stream. -/
  | metric (sample : Sample)
  /-- A message, for the error stream. -/
  | diagnostic (message : Text)
deriving DecidableEq, Repr

/-- Two streams, the time that the metrics bear, and what has been written to the streams. -/
structure Emitter where
  timestamp : Int
  streams : Streams
  /-- The number of metric lines written. -/
  emitted : Nat
  /-- The number of messages written. -/
  diagnostics : Nat
deriving DecidableEq, Repr

namespace Emitter

/-- An emitter that has written nothing yet. -/
def start (streams : Streams) (timestamp : Int) : Emitter :=
  ⟨timestamp, streams, 0, 0⟩

/-- Writes one entry as a line of its stream. -/
def write (emitter : Emitter) : Entry → Emitter × Option Fault
  | .metric sample =>
    match emitter.streams.out.writeLine sample.line with
    | (out, none) =>
      ({ emitter with
          streams := { emitter.streams with out }
          emitted := emitter.emitted + 1 }, none)
    | (out, fault) => ({ emitter with streams := { emitter.streams with out } }, fault)
  | .diagnostic message =>
    match emitter.streams.err.writeLine message with
    | (err, none) =>
      ({ emitter with
          streams := { emitter.streams with err }
          diagnostics := emitter.diagnostics + 1 }, none)
    | (err, fault) => ({ emitter with streams := { emitter.streams with err } }, fault)

/-- Writes entries in order and stops at the first that fails. -/
def deliver (emitter : Emitter) : List Entry → Emitter × Option Fault
  | [] => (emitter, none)
  | entry :: rest =>
    match emitter.write entry with
    | (emitter, none) => emitter.deliver rest
    | failed => failed

/-- Writes the value of a metric, if there is one, at the time of the emitter. -/
def emit (emitter : Emitter) (group metric : Text) (value : Option UInt64) (tags : Option Text) :
    Emitter × Option Fault :=
  match value with
  | none => (emitter, none)
  | some value => emitter.write (.metric ⟨group, metric, emitter.timestamp, value, tags⟩)

/-- Writes a message. -/
def error (emitter : Emitter) (message : Text) : Emitter × Option Fault :=
  emitter.write (.diagnostic message)

/-- Flushes the output stream and, if that succeeds, the error stream. -/
def flush (emitter : Emitter) : Emitter × Option Fault :=
  match emitter.streams.out.flush with
  | (out, none) =>
    let (err, fault) := emitter.streams.err.flush
    ({ emitter with streams := ⟨out, err⟩ }, fault)
  | (out, fault) => ({ emitter with streams := { emitter.streams with out } }, fault)

end Emitter

end SocketMetrics.Channel
