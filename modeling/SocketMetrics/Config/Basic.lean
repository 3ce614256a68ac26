import SocketMetrics.Collector.Basic
import SocketMetrics.Settings
import SocketMetrics.Startup.Opening
/-!
The configuration of the collector. Every setting may be missing; `Config.orElse` fills what is
missing from another configuration, and the accessors fall back on the standard values. A
configured interval that is no length of time falls back too. A path may be any bytes, but only one
that is a text can be written down.
-/

set_option autoImplicit false
set_option relaxedAutoImplicit false

namespace SocketMetrics

open Number Startup

/-- The settings of the collector. -/
structure Config where
  /-- The seconds between passes. -/
  interval : Option Binary64
  sockstatPath : Option RawText
  netstatPath : Option RawText
  user : Option Text
  logLevel : Option Text
  /-- The bytes in a page, if not those of the machine. -/
  pageSize : Option UInt64
deriving DecidableEq, Repr

namespace Config

/-- The name of a setting. -/
inductive Key where
  | interval
  | sockstatPath
  | netstatPath
  | user
  | logLevel
  | pageSize
deriving DecidableEq, Repr

namespace Key

/-- All settings, in the order in which they are shown. -/
def all : List Key :=
  [interval, sockstatPath, netstatPath, user, logLevel, pageSize]

/-- The name under which a setting is written. -/
def name : Key → Text
  | interval => "interval_seconds".toList
  | sockstatPath => "sockstat_path".toList
  | netstatPath => "netstat_path".toList
  | user => "user".toList
  | logLevel => "log_level".toList
  | pageSize => "page_size".toList

/-- The second name under which a setting is read. -/
def alias? : Key → Option Text
  | interval => some "interval".toList
  | sockstatPath => some "sockstat-path".toList
  | netstatPath => some "netstat-path".toList
  | user => none
  | logLevel => some "log-level".toList
  | pageSize => some "page-size".toList

/-- Whether a name in a file means the setting. -/
def isNamed (key : Key) (name : Text) : Bool :=
  name == key.name || some name == key.alias?

end Key

/-- The configuration without any setting. -/
def empty : Config :=
  ⟨none, none, none, none, none, none⟩

/-- The configuration of a collector that is told nothing. -/
def standard : Config where
  interval := some Collector.defaultInterval.toSeconds
  sockstatPath := some SourcePaths.standard.sockstat
  netstatPath := some SourcePaths.standard.netstat
  user := some standardUser
  logLevel := some Log.Threshold.info.name
  pageSize := none

/-- The settings of a configuration, and for the missing ones those of another. -/
def orElse (config base : Config) : Config where
  interval := config.interval <|> base.interval
  sockstatPath := config.sockstatPath <|> base.sockstatPath
  netstatPath := config.netstatPath <|> base.netstatPath
  user := config.user <|> base.user
  logLevel := config.logLevel <|> base.logLevel
  pageSize := config.pageSize <|> base.pageSize

/-- The bytes in a page of the machine. -/
def machinePageSize : UInt64 := 4096

/-- The time between passes. -/
def effectiveInterval (config : Config) : Duration :=
  (config.interval.bind Duration.ofSeconds?).getD Collector.defaultInterval

/-- The paths of the sources. -/
def effectivePaths (config : Config) : SourcePaths where
  sockstat := config.sockstatPath.getD SourcePaths.standard.sockstat
  netstat := config.netstatPath.getD SourcePaths.standard.netstat

/-- The account to switch to. -/
def effectiveUser (config : Config) : Text :=
  config.user.getD standardUser

/-- The bytes in a page. -/
def effectivePageSize (config : Config) : UInt64 :=
  config.pageSize.getD machinePageSize

/-- The threshold of the log, if the setting names one. -/
def threshold? (config : Config) : Option Log.Threshold :=
  config.logLevel.bind Log.Threshold.ofNameInAnyCase?

/-- The setting for a text. -/
def textSetting (value : Option Text) : Setting :=
  (value.map Setting.text).getD .absent

/-- The setting for a path, which has to be a text. -/
def pathSetting? : Option RawText → Option Setting
  | none => some .absent
  | some path => path.text?.map Setting.text

/-- The settings to write, unless one of the paths cannot be written. -/
def settings? (config : Config) : Option Settings := do
  let sockstatPath ← pathSetting? config.sockstatPath
  let netstatPath ← pathSetting? config.netstatPath
  return [
    (Key.interval.name, (config.interval.map Setting.number).getD .absent),
    (Key.sockstatPath.name, sockstatPath),
    (Key.netstatPath.name, netstatPath),
    (Key.user.name, textSetting config.user),
    (Key.logLevel.name, textSetting config.logLevel),
    (Key.pageSize.name, (config.pageSize.map Setting.count).getD .absent)]

end Config

end SocketMetrics
