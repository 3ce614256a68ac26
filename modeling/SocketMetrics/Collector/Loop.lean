import SocketMetrics.Collector.Basic
import SocketMetrics.Collector.Sleep
import SocketMetrics.Number.Notation
/-!
The collection loop: pass after pass, with a sleep behind each one, until the watch finds the
parent gone or a stream fails. The trace of a run shows the sources and the streams as they stand at
every question, every slice of a sleep and every beginning of a pass.
-/

set_option autoImplicit false
set_option relaxedAutoImplicit false

namespace SocketMetrics.Collector

open Number Channel

/-- An action, with the sources and the streams at that time and the number of passes completed
until then. -/
structure Moment where
  action : Action
  sources : Sources
  streams : Streams
  passes : Nat
deriving DecidableEq, Repr

/-- What a run leaves behind. -/
structure Run where
  collector : Collector
  streams : Streams
  outcome : Except Fault Termination
  log : List Log.Record
  trace : List Moment

namespace Run

/-- A run behind a stretch of log and trace. -/
def after (log : List Log.Record) (trace : List Moment) (run : Run) : Run :=
  { run with log := log ++ run.log, trace := trace ++ run.trace }

/-- How often the watch was asked. -/
def questions (run : Run) : Nat :=
  run.trace.countP fun moment ↦ moment.action matches .asked _

end Run

/-- The actions as moments of a collector that writes nothing meanwhile. -/
def moments (collector : Collector) (streams : Streams) (actions : List Action) : List Moment :=
  actions.map fun action ↦ ⟨action, collector.sources, streams, collector.passes⟩

/-- The record in which the loop logs that the parent is gone. -/
def goneRecord (collector : Collector) : Log.Record where
  level := .warn
  message :=
    "Parent process is gone after ".toList ++ decimal collector.passes
      ++ " passes, exiting".toList

/-- The end of a run whose parent is gone. -/
def parentGone (collector : Collector) (streams : Streams) : Run where
  collector := { collector with state := .terminated .parentGone }
  streams := streams
  outcome := .ok .parentGone
  log := [collector.goneRecord]
  trace := []

/-- The text of a flag. -/
def flag (value : Bool) : Text :=
  if value then "true".toList else "false".toList

/-- The record in which the loop logs its pass of the given number. -/
def passRecord (number : Nat) (report : Pass.Report) : Log.Record where
  level := .debug
  message :=
    "Pass ".toList ++ decimal number ++ " at ".toList ++ decimalInt report.timestamp
      ++ ": ".toList ++ decimal report.emitted ++ " metrics, ".toList
      ++ decimal report.diagnostics ++ " diagnostics (sockstat ok: ".toList
      ++ flag report.sockstatOk ++ ", netstat ok: ".toList ++ flag report.netstatOk ++ [')']

/-- The record in which the loop logs its beginning. -/
def startRecord (collector : Collector) : Log.Record where
  level := .info
  message :=
    "Collecting every ".toList ++ fixed 1 collector.interval.toSeconds ++ "s (page size ".toList
      ++ decimal collector.pageSize.toNat ++ " bytes)".toList

/-- Runs passes and sleeps. -/
def loop (clock : Clock) (collector : Collector) (streams : Streams) (watch : Watch) : Run :=
  match watch with
  | true :: later =>
    let before := moments collector streams [.asked true, .began]
    let step := collector.runOnce clock streams
    match step.outcome with
    | .error fault => ⟨step.collector, step.streams, .error fault, step.log, before⟩
    | .ok report =>
      let log := step.log ++ [passRecord step.collector.passes report]
      let slept := sleep collector.interval later
      let during := before ++ moments step.collector step.streams slept.actions
      match _complete : slept.rest with
      | none => (parentGone step.collector step.streams).after log during
      | some rest => (loop clock step.collector step.streams rest).after log during
  | _ => (parentGone collector streams).after [] (moments collector streams [.asked false])
termination_by watch.length
decreasing_by
  have := sleep_rest_length _complete
  simp only [List.length_cons]
  omega

/-- Runs the loop from its start. -/
def run (collector : Collector) (clock : Clock) (streams : Streams) (watch : Watch) : Run :=
  let collector := { collector with state := .running }
  (loop clock collector streams watch).after [collector.startRecord] []

end SocketMetrics.Collector
