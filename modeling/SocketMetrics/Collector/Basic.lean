import SocketMetrics.Number.Duration
import SocketMetrics.Pass.Basic
/-!
The collector: two open sources, what it was configured with, and how far it has come. A single
pass counts when every write and both flushes succeed, and never changes the state.
-/

set_option autoImplicit false
set_option relaxedAutoImplicit false

namespace SocketMetrics

open Number Channel

namespace Collector

/-- Why a collector stops for good. -/
inductive Termination where
  /-- A source cannot be opened, so that starting again is of no use. -/
  | sourcesUnavailable
  /-- The process that started the collector is gone. -/
  | parentGone
deriving DecidableEq, Repr

/-- The exit code that tells the supervisor not to start the collector again. -/
def doNotRestart : Nat := 13

/-- The exit code of a process that outlives its parent. -/
def parentGoneCode : Nat := 1

/-- The exit code that reports a termination. -/
def Termination.exitCode : Termination → Nat
  | sourcesUnavailable => doNotRestart
  | parentGone => parentGoneCode

/-- How far a collector has come. -/
inductive State where
  | startup
  | running
  | terminated (reason : Termination)
deriving DecidableEq, Repr

/-- The time between passes unless another one is configured. -/
def defaultInterval : Duration := .ofSeconds 30

/-- The time at which the pass begins that follows on a given number of completed passes. -/
abbrev Clock := Nat → Int

end Collector

/-- A collector with its sources open. -/
structure Collector where
  sources : Sources
  interval : Duration
  pageSize : UInt64
  state : Collector.State
  /-- The number of completed passes. -/
  passes : Nat
deriving DecidableEq, Repr

namespace Collector

/-- A collector that has done nothing yet. -/
def ofSources (sources : Sources) (interval : Duration) (pageSize : UInt64) : Collector :=
  ⟨sources, interval, pageSize, .startup, 0⟩

/-- What a single pass of a collector leaves behind. -/
structure Step where
  collector : Collector
  streams : Streams
  outcome : Except Fault Pass.Report
  log : List Log.Record

/-- Runs a single pass. -/
def runOnce (collector : Collector) (clock : Clock) (streams : Streams) : Step :=
  let pass := Pass.run collector.sources streams (clock collector.passes) collector.pageSize
  let passes := match pass.outcome with
    | .ok _ => collector.passes + 1
    | .error _ => collector.passes
  ⟨{ collector with sources := pass.sources, passes }, pass.streams, pass.outcome, pass.log⟩

end Collector

end SocketMetrics
