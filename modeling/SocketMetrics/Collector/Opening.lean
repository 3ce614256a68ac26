import SocketMetrics.Collector.Basic
import SocketMetrics.Startup.Opening
/-!
Building a collector over sources that are opened once. A source that cannot be opened ends the
collector before it has begun.
-/

set_option autoImplicit false
set_option relaxedAutoImplicit false

namespace SocketMetrics.Collector

open Files Number Startup

/-- The course of building a collector. -/
structure Opening where
  outcome : Except Termination Collector
  log : List Log.Record

/-- Opens both sources and builds a collector over them. -/
def openAt (files : FileSystem) (paths : SourcePaths) (interval : Duration) (pageSize : UInt64) :
    Opening :=
  match openSources files paths with
  | .ok sources => ⟨.ok (ofSources sources interval pageSize), [openedRecord paths]⟩
  | .error error =>
    ⟨.error .sourcesUnavailable,
      [⟨.error, error.message ++ " - asking the supervisor not to restart us".toList⟩]⟩

end SocketMetrics.Collector
