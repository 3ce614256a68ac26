import SocketMetrics.CommandLine.Reading
import SocketMetrics.Config.Validation
import SocketMetrics.Program.Check
import SocketMetrics.Program.Collection
/-!
The whole program as a function of its surroundings. A wrong command line ends it first, then a
configuration that cannot be resolved. Showing or checking the configuration takes the place of
everything else, and only checking looks whether the configuration is valid; all other work begins
with a valid one. Showing fails where a path of the configuration is no text.
-/

set_option autoImplicit false
set_option relaxedAutoImplicit false

namespace SocketMetrics.Program

open CommandLine Config Files

/-- What a process is started with. -/
structure Invocation extends Surroundings where
  /-- The words behind the name of the program. -/
  words : List RawText
  /-- The interval in the environment. -/
  environment : Option Text

/-- The line about a configuration that cannot be resolved, with what lies behind it. -/
def loadComplaint (error : LoadError) : Text :=
  let cause := match error.cause? with
    | some cause => "\n\nCaused by:\n    ".toList ++ cause
    | none => []
  "Error: ".toList ++ error.message ++ cause

/-- The line about a configuration that is not valid. -/
def invalidComplaint (invalid : Invalid) : Text :=
  "❌ Configuration invalid: ".toList ++ invalid.message

/-- The threshold of the log. -/
def threshold (arguments : Arguments) (config : Config) : Log.Threshold :=
  (arguments.logLevel <|> config.threshold?).getD .info

/-- The configuration as it is shown, if it can be written. -/
def shownConfig? (format : Format) (config : Config) : Option Text :=
  config.settings?.map format.write

/-- The line about a configuration that cannot be written. -/
def unwritableComplaint : Text :=
  "Error: path contains invalid UTF-8 characters".toList

/-- The record in which a notice is logged. -/
def noticeRecord (notice : Notice) : Log.Record :=
  match notice with
  | .loaded _ => ⟨.info, notice.message⟩
  | .ignoredInterval _ => ⟨.warn, notice.message⟩

/-- The process that shows or checks the configuration. -/
def present (stdout : Stdout) (arguments : Arguments) (resolved : Resolved) : Outcome :=
  let notices := resolved.notices.map fun notice ↦ Said.err notice.message
  if arguments.checkConfig then
    match resolved.config.fault? with
    | some invalid => speak stdout failure (notices ++ [.err (invalidComplaint invalid)])
    | none => speak stdout success (notices ++ [.out "✅ Configuration is valid".toList])
  else
    match shownConfig? arguments.format resolved.config with
    | none => speak stdout failure (notices ++ [.err unwritableComplaint])
    | some text => speak stdout success (notices ++ [.out text])

/-- The records with which all work begins. -/
def openingRecords (shown : Log.Threshold) (notices : List Notice) : List Log.Record :=
  ⟨.info, "Logging initialized with level: ".toList ++ shown.title⟩
    :: notices.map noticeRecord ++ [⟨.info, "Starting netstat-collector".toList⟩]

/-- Whether a process collects until its parent is gone. -/
def staysOn (arguments : Arguments) (config : Config) : Bool :=
  arguments.command.isNone && !arguments.showConfig && !arguments.checkConfig
    && config.fault?.isNone

/-- The process that works with a valid configuration. -/
def work (surroundings : Surroundings) (arguments : Arguments) (resolved : Resolved) : Outcome :=
  let config := resolved.config
  let shown := threshold arguments config
  let outcome := match arguments.command with
    | some .check =>
      let report := check surroundings.files config
      let outcome := report.outcome surroundings.stdout
      if outcome.code = aborted then outcome
      else { outcome with log := outcome.log ++ [exitRecord outcome.code] }
    | some .once => once surroundings config
    | none => collect surroundings config
  (outcome.after (openingRecords shown resolved.notices)).shownBy shown

/-- What arguments lead to. -/
def perform (invocation : Invocation) (arguments : Arguments) : Outcome :=
  match resolve invocation.files arguments.overrides invocation.environment with
  | .error error => .ofComplaint failure (loadComplaint error)
  | .ok resolved =>
    if arguments.showConfig || arguments.checkConfig then
      present invocation.stdout arguments resolved
    else match resolved.config.fault? with
      | some invalid => .ofComplaint failure (invalidComplaint invalid)
      | none => work invocation.toSurroundings arguments resolved

/-- What an interruption leads to. A request that cannot be printed is dropped in silence. -/
def interrupted (stdout : Stdout) (interruption : Interruption) : Outcome :=
  if interruption.isRequest then ⟨success, stdout.arriving interruption.text, [], []⟩
  else ⟨wrongUsage, [], interruption.text, []⟩

/-- Runs the program. -/
def run (invocation : Invocation) : Outcome :=
  match CommandLine.read invocation.words with
  | .error interruption => interrupted invocation.stdout interruption
  | .ok arguments => perform invocation arguments

end SocketMetrics.Program
