import SocketMetrics.Config.Loading
import SocketMetrics.Number.Literal
import SocketMetrics.Text.Blank
import SocketMetrics.Text.Quoted
/-!
Resolving the configuration from all that the collector is told: what the command line sets counts
first, for the interval the environment comes next, then the configuration file, and last the
standard values. An interval in the environment that cannot be waited for is ignored with a notice.
-/

set_option autoImplicit false
set_option relaxedAutoImplicit false

namespace SocketMetrics.Config

open Files Number

/-- What the command line says about the configuration. -/
structure Overrides where
  /-- The file to load. -/
  file : Option RawText
  /-- Whether no file is loaded at all. -/
  noFile : Bool
  interval : Option Binary64
  sockstatPath : Option RawText
  netstatPath : Option RawText
  user : Option Text
deriving DecidableEq, Repr

/-- Something worth telling about how a configuration came about. -/
inductive Notice where
  | loaded (path : RawText)
  | ignoredInterval (raw : Text)
deriving DecidableEq, Repr

/-- The variable of the environment that holds an interval. -/
def intervalVariable : Text := "TCOLLECTOR_SAMPLE_INTERVAL".toList

/-- The message of a notice. -/
def Notice.message : Notice → Text
  | loaded path => "Loaded configuration from: ".toList ++ path.display
  | ignoredInterval raw =>
    "Ignoring ".toList ++ intervalVariable ++ ['='] ++ raw.quote
      ++ ": not a positive number of seconds".toList

/-- The interval that a text from the environment gives, if it can be waited for. -/
def intervalOverride? (raw : Text) : Option Binary64 :=
  (Binary64.ofLiteral? raw.trim).filter fun seconds ↦ seconds.isFinite && seconds.isPositive

/-- A configuration with what is worth telling about it. -/
structure Resolved where
  config : Config
  notices : List Notice
deriving DecidableEq, Repr

/-- Lets the environment set the interval. -/
def Resolved.withEnvironment (resolved : Resolved) (raw : Option Text) : Resolved :=
  match raw with
  | none => resolved
  | some raw =>
    match intervalOverride? raw with
    | some seconds => { resolved with config := { resolved.config with interval := some seconds } }
    | none => { resolved with notices := resolved.notices ++ [.ignoredInterval raw] }

/-- Lets the command line set what it names. -/
def Resolved.withOverrides (resolved : Resolved) (overrides : Overrides) : Resolved :=
  let told : Config := {
    interval := overrides.interval
    sockstatPath := overrides.sockstatPath
    netstatPath := overrides.netstatPath
    user := overrides.user
    logLevel := none
    pageSize := none }
  { resolved with config := told.orElse resolved.config }

/-- Resolves the configuration. -/
def resolve (files : FileSystem) (overrides : Overrides) (environment : Option Text) :
    Except LoadError Resolved := do
  let base : Resolved ←
    if overrides.noFile then pure ⟨standard, []⟩
    else do
      let loaded ← load files overrides.file
      pure ⟨loaded.config, loaded.origin.toList.map Notice.loaded⟩
  return (base.withEnvironment environment).withOverrides overrides

end SocketMetrics.Config
