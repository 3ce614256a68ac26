import SocketMetrics.CommandLine.Basic
/-!
What stands in the way of a command line: it is wrong, or it asks for help or for the version
instead of anything else.
-/

set_option autoImplicit false
set_option relaxedAutoImplicit false

namespace SocketMetrics.CommandLine

/-- The name of the program. -/
def programName : Text := "netstat-collector".toList

/-- The version of the program. -/
def programVersion : Text := "0.1.0".toList

/-- Why a command line comes to no arguments. -/
inductive Interruption where
  /-- An option that does not exist, or a word where none is expected. -/
  | unexpected (word : Text)
  | missingValue (parameter : Parameter)
  /-- A value that is none of those that a parameter admits. -/
  | inadmissible (parameter : Parameter) (value : Text)
  /-- A value that is no number. -/
  | malformed (parameter : Parameter) (value : Text)
  /-- A value that has to be a text and is none. -/
  | notUnicode
  | repeatedParameter (parameter : Parameter)
  | repeatedFlag (flag : Flag)
  | unknownCommand (word : Text)
  /-- A value for a flag. -/
  | excessValue (flag : Flag) (value : Text)
  | help
  | version (command : Option Command)
deriving DecidableEq, Repr

/-- The values that a parameter admits, if they are few. -/
def Parameter.choices : Parameter → List Text
  | .logLevel => Log.Threshold.all.map Log.Threshold.name
  | .configFormat => Config.Format.all.map Config.Format.name
  | _ => []

/-- The help text. -/
def helpText : Text :=
  ("Socket allocation and protocol counter collector\n\n" ++
    "Usage: netstat-collector [OPTIONS] [COMMAND]\n\n" ++
    "Commands:\n" ++
    "  once   Run a single pass and exit\n" ++
    "  check  Check that both sources can be opened and parsed\n" ++
    "  help   Print this message or the help of the given subcommand(s)\n\n" ++
    "Options:\n" ++
    "      --log-level <LOG_LEVEL>          Log level (default: info, or log_level from the " ++
    "config file)\n" ++
    "  -c, --config <CONFIG>                Config file (YAML/JSON/TOML)\n" ++
    "      --no-config                      Disable all config file loading\n" ++
    "  -i, --interval <INTERVAL>            Seconds between passes (overrides " ++
    "TCOLLECTOR_SAMPLE_INTERVAL)\n" ++
    "      --sockstat-path <SOCKSTAT_PATH>  Path of the socket allocation summary\n" ++
    "      --netstat-path <NETSTAT_PATH>    Path of the protocol counter table\n" ++
    "      --user <USER>                    Account to switch to when started as root\n" ++
    "      --show-config                    Print effective merged config and exit\n" ++
    "      --config-format <CONFIG_FORMAT>  Output format for --show-config\n" ++
    "      --check-config                   Validate config and exit (return code 1 on error)\n" ++
    "  -h, --help                           Print help\n" ++
    "  -V, --version                        Print version\n").toList

/-- The line that tells the version, of the program or of one of its commands. -/
def versionText (command : Option Command) : Text :=
  let name := match command with
    | none => programName
    | some command => programName ++ '-' :: command.name
  name ++ ' ' :: programVersion ++ ['\n']

namespace Interruption

/-- Whether the command line asks for a text and is not wrong. -/
def isRequest : Interruption → Bool
  | help | version _ => true
  | _ => false

/-- The first line of the message for a wrong command line. -/
def complaint : Interruption → Text
  | unexpected word => "unexpected argument '".toList ++ word ++ "' found".toList
  | missingValue parameter =>
    "a value is required for '".toList ++ parameter.usage ++ "' but none was supplied".toList
  | inadmissible parameter value =>
    "invalid value '".toList ++ value ++ "' for '".toList ++ parameter.usage ++ ['\'']
  | malformed parameter value =>
    "invalid value '".toList ++ value ++ "' for '".toList ++ parameter.usage
      ++ "': invalid float literal".toList
  | notUnicode => "invalid UTF-8 was detected in one or more arguments".toList
  | repeatedParameter parameter =>
    "the argument '".toList ++ parameter.usage ++ "' cannot be used multiple times".toList
  | repeatedFlag flag =>
    "the argument '--".toList ++ flag.name ++ "' cannot be used multiple times".toList
  | unknownCommand word => "unrecognized subcommand '".toList ++ word ++ ['\'']
  | excessValue flag value =>
    "unexpected value '".toList ++ value ++ "' for '--".toList ++ flag.name
      ++ "' found; no more were expected".toList
  | help | version _ => []

/-- The line that names the values to choose from. -/
def hint : Interruption → Text
  | missingValue parameter | inadmissible parameter _ =>
    if parameter.choices.isEmpty then []
    else "  [possible values: ".toList ++ [',', ' '].intercalate parameter.choices ++ "]\n".toList
  | _ => []

/-- The line that shows how the program is used. -/
def reminder : Interruption → Text
  | unexpected _ | notUnicode | repeatedParameter _ | repeatedFlag _ | unknownCommand _
  | excessValue _ _ =>
    "\nUsage: netstat-collector [OPTIONS] [COMMAND]\n".toList
  | _ => []

/-- The text that is printed instead of doing anything. -/
def text : Interruption → Text
  | help => helpText
  | version command => versionText command
  | interruption =>
    "error: ".toList ++ interruption.complaint ++ ['\n'] ++ interruption.hint
      ++ interruption.reminder ++ "\nFor more information, try '--help'.\n".toList

end Interruption

end SocketMetrics.CommandLine
