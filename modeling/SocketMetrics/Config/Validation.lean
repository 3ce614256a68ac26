import SocketMetrics.Config.Basic
import SocketMetrics.Number.Notation
/-!
What a configuration must satisfy before the collector starts. A missing setting is always right;
of several faults the first in the order of the settings is told, the level of the log being last.
-/

set_option autoImplicit false
set_option relaxedAutoImplicit false

namespace SocketMetrics.Config

open Number

/-- What is wrong with a configuration. -/
inductive Invalid where
  | interval (seconds : Binary64)
  | emptyPath (key : Key)
  | emptyPage
  | logLevel (level : Text)
deriving DecidableEq, Repr

/-- The message for an invalid configuration. -/
def Invalid.message : Invalid → Text
  | interval seconds =>
    Key.interval.name ++ " must be a positive number, got ".toList ++ Notation.plain.write seconds
  | emptyPath key => key.name ++ " must not be empty".toList
  | emptyPage => Key.pageSize.name ++ " must be greater than 0".toList
  | logLevel level =>
    "Invalid ".toList ++ Key.logLevel.name ++ " '".toList ++ level
      ++ "', expected off/error/warn/info/debug/trace".toList

/-- Whether a number of seconds can be waited for. -/
def isInterval (seconds : Binary64) : Bool :=
  seconds.isFinite && seconds.isPositive

/-- The first fault of a configuration. -/
def fault? (config : Config) : Option Invalid :=
  let interval := config.interval.bind fun seconds ↦
    if isInterval seconds then none else some (.interval seconds)
  let path (key : Key) (value : Option RawText) : Option Invalid :=
    if value = some .empty then some (.emptyPath key) else none
  let page := if config.pageSize = some 0 then some Invalid.emptyPage else none
  let level := config.logLevel.bind fun level ↦
    if (Log.Threshold.ofNameInAnyCase? level).isSome then none else some (.logLevel level)
  interval <|> path .sockstatPath config.sockstatPath <|> path .netstatPath config.netstatPath
    <|> page <|> level

end SocketMetrics.Config
