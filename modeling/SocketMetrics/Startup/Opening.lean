import SocketMetrics.Files.Basic
import SocketMetrics.Log
import SocketMetrics.Netstat.Table
import SocketMetrics.Sockstat.Layout
/-!
Opening both sources, the summary first. A source that cannot be opened is told by its path.
-/

set_option autoImplicit false
set_option relaxedAutoImplicit false

namespace SocketMetrics.Startup

open Channel Files

/-- The paths of the two sources. -/
structure SourcePaths where
  sockstat : RawText
  netstat : RawText
deriving DecidableEq, Repr

/-- The paths of the kernel. -/
def SourcePaths.standard : SourcePaths :=
  ⟨.ofText "/proc/net/sockstat".toList, .ofText "/proc/net/netstat".toList⟩

/-- The account to which the collector switches unless another one is configured. -/
def standardUser : Text := "nobody".toList

/-- Why the sources cannot be used. -/
inductive SourceError where
  | opening (path : RawText) (fault : Fault)
  | reading (path : RawText) (fault : Fault)
  | sockstat (error : Sockstat.ReadError)
  | netstat (error : Netstat.TableError)
deriving DecidableEq, Repr

/-- The message for unusable sources. -/
def SourceError.message : SourceError → Text
  | opening path fault => "Failed to open ".toList ++ path.display ++ ": ".toList ++ fault.message
  | reading path fault => "Failed to read ".toList ++ path.display ++ ": ".toList ++ fault.message
  | sockstat error => error.message
  | netstat error => error.message

/-- Opens both sources. -/
def openSources (files : FileSystem) (paths : SourcePaths) : Except SourceError Sources := do
  let sockstat ← (files.openAt paths.sockstat).mapError (.opening paths.sockstat)
  let netstat ← (files.openAt paths.netstat).mapError (.opening paths.netstat)
  return ⟨sockstat, netstat⟩

/-- The record in which opened sources are logged. -/
def openedRecord (paths : SourcePaths) : Log.Record :=
  ⟨.info,
    "Opened ".toList ++ paths.sockstat.display ++ " and ".toList ++ paths.netstat.display⟩

end SocketMetrics.Startup
