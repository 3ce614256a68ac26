import SocketMetrics.Fault
/-!
Places that text is written to. A sink refuses a text that its capacity does not admit and is then
unchanged; the empty text is never refused. What has been written stays pending until a flush
succeeds. A line is written as two texts, its content and its line feed, so that a sink may hold
the first without the second.
-/

set_option autoImplicit false
set_option relaxedAutoImplicit false

namespace SocketMetrics.Channel

/-- What bounds the text that a sink takes. -/
inductive Capacity where
  | unbounded
  /-- Nothing is taken once the sink holds so many line feeds. -/
  | lines (limit : Nat)
  /-- So many bytes may be pending, and no flush ever succeeds with text pending. -/
  | pending (limit : Nat)
deriving DecidableEq, Repr

/-- A fault that every flush meets once so many have succeeded. -/
structure FlushFailure where
  sound : Nat
  fault : Fault
deriving DecidableEq, Repr

/-- A place that text is written to. -/
structure Sink where
  capacity : Capacity
  /-- The fault of a text that is not taken. -/
  full : Fault
  /-- What makes flushes fail, if anything does. -/
  flushFailure : Option FlushFailure
  /-- All text taken so far. -/
  written : Text
  /-- The text taken since the last flush that succeeded. -/
  pending : Text
  /-- The number of flushes that succeeded. -/
  flushes : Nat
deriving DecidableEq, Repr

namespace Sink

/-- An empty sink, whose flushes all meet the fault if there is one. -/
def empty (capacity : Capacity) (full : Fault) (flushFault : Option Fault) : Sink :=
  ⟨capacity, full, flushFault.map (FlushFailure.mk 0), [], [], 0⟩

/-- A sink that takes everything. -/
def unbounded : Sink :=
  empty .unbounded .noSpace none

/-- The standard output of a process, gathered in a buffer in front of a device that has no room.
-/
def fullDevice : Sink :=
  empty (.pending 8192) .noSpace none

/-- Whether the sink takes a text. -/
def takes (sink : Sink) (text : Text) : Bool :=
  text.isEmpty || match sink.capacity with
    | .unbounded => true
    | .lines limit => sink.written.lineFeeds < limit
    | .pending limit => sink.pending.byteCount + text.byteCount ≤ limit

/-- The sink after it has taken a text. -/
def append (sink : Sink) (text : Text) : Sink :=
  { sink with written := sink.written ++ text, pending := sink.pending ++ text }

/-- Writes a text, with the fault if the sink does not take it. -/
def write (sink : Sink) (text : Text) : Sink × Option Fault :=
  if sink.takes text then (sink.append text, none) else (sink, some sink.full)

/-- Writes a line: its content and then its line feed. -/
def writeLine (sink : Sink) (content : Text) : Sink × Option Fault :=
  match sink.write content with
  | (sink, none) => sink.write ['\n']
  | failed => failed

/-- The fault of the next flush, whatever is pending. -/
def flushFault (sink : Sink) : Option Fault :=
  (sink.flushFailure.filter fun failure ↦ failure.sound ≤ sink.flushes).map FlushFailure.fault

/-- The fault that a flush would meet. -/
def flushObstacle? (sink : Sink) : Option Fault :=
  match sink.flushFault, sink.capacity with
  | some fault, _ => some fault
  | none, .pending _ => if sink.pending.isEmpty then none else some sink.full
  | none, _ => none

/-- Passes the pending text on. -/
def flush (sink : Sink) : Sink × Option Fault :=
  match sink.flushObstacle? with
  | some fault => (sink, some fault)
  | none => ({ sink with pending := [], flushes := sink.flushes + 1 }, none)

end Sink

/-- The two streams of the collector: metric lines go to `out` and diagnostics to `err`. -/
structure Streams where
  out : Sink
  err : Sink
deriving DecidableEq, Repr

/-- Two streams that take everything. -/
def Streams.unbounded : Streams :=
  ⟨.unbounded, .unbounded⟩

end SocketMetrics.Channel
