import SocketMetrics.Collector.Loop
import SocketMetrics.Collector.Opening
import SocketMetrics.Config.Basic
import SocketMetrics.Program.Outcome
/-!
The processes that collect, a single time or until the parent is gone. Both open the sources first
and exit at once if one of them cannot be opened; both fail when a stream does.
-/

set_option autoImplicit false
set_option relaxedAutoImplicit false

namespace SocketMetrics.Program

open Channel Files Number

/-- The surroundings of a collecting process. -/
structure Surroundings where
  files : FileSystem
  stdout : Stdout
  clock : Collector.Clock
  /-- What the process learns about its parent. -/
  watch : Collector.Watch

/-- The streams of a collecting process. -/
def Surroundings.streams (surroundings : Surroundings) : Streams :=
  ⟨surroundings.stdout.sink, .unbounded⟩

/-- What a collecting process leaves on its streams. -/
def collected (stdout : Stdout) (code : Nat) (streams : Streams) (log : List Log.Record) :
    Outcome :=
  ⟨code, stdout.arriving streams.out.written, streams.err.written, log⟩

/-- What a collecting process leaves on its streams when one of them fails. -/
def broken (stdout : Stdout) (fault : Fault) (streams : Streams) (log : List Log.Record) :
    Outcome :=
  let outcome := collected stdout failure streams log
  { outcome with stderr := outcome.stderr ++ "Error: ".toList ++ fault.message ++ ['\n'] }

/-- The record in which an exit is logged. -/
def exitRecord (code : Nat) : Log.Record :=
  if code = success then ⟨.info, "netstat-collector stopped".toList⟩
  else if code = Collector.doNotRestart then
    ⟨.error, "Exiting with code ".toList ++ decimal code ++ " (do not restart)".toList⟩
  else ⟨.warn, "Exiting with code ".toList ++ decimal code⟩

/-- Opens a collector and goes on with it, or exits because a source cannot be opened. -/
def withCollector (surroundings : Surroundings) (config : Config) (go : Collector → Outcome) :
    Outcome :=
  let opening := Collector.openAt surroundings.files config.effectivePaths
    config.effectiveInterval config.effectivePageSize
  match opening.outcome with
  | .ok collector => (go collector).after opening.log
  | .error termination =>
    ⟨termination.exitCode, [], [], opening.log ++ [exitRecord termination.exitCode]⟩

/-- The record in which a single pass is logged. -/
def singlePassRecord (report : Pass.Report) : Log.Record where
  level := .info
  message :=
    "Single pass emitted ".toList ++ decimal report.emitted ++ " metrics with ".toList
      ++ decimal report.diagnostics ++ " diagnostics".toList

/-- The process that runs a single pass. -/
def once (surroundings : Surroundings) (config : Config) : Outcome :=
  withCollector surroundings config fun collector ↦
    let step := collector.runOnce surroundings.clock surroundings.streams
    match step.outcome with
    | .error fault => broken surroundings.stdout fault step.streams step.log
    | .ok report =>
      collected surroundings.stdout success step.streams
        (step.log ++ [singlePassRecord report, exitRecord success])

/-- The process that collects until its parent is gone. -/
def collect (surroundings : Surroundings) (config : Config) : Outcome :=
  withCollector surroundings config fun collector ↦
    let run := collector.run surroundings.clock surroundings.streams surroundings.watch
    match run.outcome with
    | .error fault => broken surroundings.stdout fault run.streams run.log
    | .ok termination =>
      collected surroundings.stdout termination.exitCode run.streams
        (run.log ++ [exitRecord termination.exitCode])

end SocketMetrics.Program
