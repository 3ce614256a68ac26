import SocketMetrics.Config.Basic
import SocketMetrics.Number.Notation
import SocketMetrics.Program.Outcome
import SocketMetrics.Startup.Inspection
/-!
The report on the sources: what is going to be read and how often, and whether it can be read. What
was found is told on the standard output, and a failure on the standard error.
-/

set_option autoImplicit false
set_option relaxedAutoImplicit false

namespace SocketMetrics.Program

open Files Number Startup

/-- The report on the sources. -/
structure CheckReport where
  said : List Said
  code : Nat
  log : List Log.Record
deriving DecidableEq, Repr

/-- The lines in front of the findings. -/
def checkHeading (config : Config) : List Said :=
  let paths := config.effectivePaths
  [ .out "🔍 netstat-collector - Source Check".toList,
    .out "===================================".toList,
    .out ("\n📁 Sockstat: ".toList ++ paths.sockstat.display),
    .out ("📁 Netstat:  ".toList ++ paths.netstat.display),
    .out ("📐 Page size: ".toList ++ decimal config.effectivePageSize.toNat ++ " bytes".toList),
    .out ("⏱️  Interval: ".toList ++ fixed 1 config.effectiveInterval.toSeconds ++ ['s'])]

/-- Reports on the sources of a configuration. -/
def check (files : FileSystem) (config : Config) : CheckReport :=
  let inspection := inspect files config.effectivePaths
  match inspection.outcome with
  | .ok found => {
      said := checkHeading config ++ [
        .out ("   ✅ Sockstat parsed (".toList ++ decimal found.fields
          ++ " fields present)".toList),
        .out ("   ✅ Netstat parsed (".toList ++ decimal found.sections ++ " sections)".toList),
        .out "\n✅ All checks passed".toList]
      code := success
      log := inspection.log }
  | .error error => {
      said := checkHeading config ++ [
        .err ("   ❌ ".toList ++ error.message),
        .err "\n❌ Source check failed".toList]
      code := failure
      log := inspection.log }

/-- The process that reports on the sources. -/
def CheckReport.outcome (report : CheckReport) (stdout : Stdout) : Outcome :=
  (speak stdout report.code report.said).after report.log

end SocketMetrics.Program
