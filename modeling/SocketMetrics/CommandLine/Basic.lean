import SocketMetrics.Config.Resolution
/-!
The vocabulary of the command line: parameters, which have a value, flags, which have none, and the
commands that do something else than collecting. `Arguments` is what a command line comes to.
-/

set_option autoImplicit false
set_option relaxedAutoImplicit false

namespace SocketMetrics.CommandLine

open Number

/-- Something to do instead of collecting until the parent is gone. -/
inductive Command where
  /-- A single pass. -/
  | once
  /-- An inspection of the sources. -/
  | check
deriving DecidableEq, Repr

namespace Command

def all : List Command := [once, check]

def name : Command → Text
  | once => "once".toList
  | check => "check".toList

def ofName? (name : Text) : Option Command :=
  all.find? fun command ↦ command.name == name

end Command

/-- The word that asks for help in the place of a command. -/
def helpCommand : Text := "help".toList

/-- An option with a value. -/
inductive Parameter where
  | logLevel
  | config
  | interval
  | sockstatPath
  | netstatPath
  | user
  | configFormat
deriving DecidableEq, Repr

namespace Parameter

def all : List Parameter :=
  [logLevel, config, interval, sockstatPath, netstatPath, user, configFormat]

/-- The name behind two minus signs. -/
def name : Parameter → Text
  | logLevel => "log-level".toList
  | config => "config".toList
  | interval => "interval".toList
  | sockstatPath => "sockstat-path".toList
  | netstatPath => "netstat-path".toList
  | user => "user".toList
  | configFormat => "config-format".toList

/-- The letter behind a single minus sign. -/
def letter? : Parameter → Option Char
  | config => some 'c'
  | interval => some 'i'
  | _ => none

def ofName? (name : Text) : Option Parameter :=
  all.find? fun parameter ↦ parameter.name == name

def ofLetter? (letter : Char) : Option Parameter :=
  all.find? fun parameter ↦ parameter.letter? == some letter

/-- The parameter as messages show it, with a name for its value. -/
def usage (parameter : Parameter) : Text :=
  let value := parameter.name.map fun c ↦ if c == '-' then '_' else c.toUpper
  "--".toList ++ parameter.name ++ " <".toList ++ value ++ ['>']

end Parameter

/-- An option without a value. -/
inductive Flag where
  | noConfig
  | showConfig
  | checkConfig
  | help
  | version
deriving DecidableEq, Repr

namespace Flag

def all : List Flag := [noConfig, showConfig, checkConfig, help, version]

/-- The name behind two minus signs. -/
def name : Flag → Text
  | noConfig => "no-config".toList
  | showConfig => "show-config".toList
  | checkConfig => "check-config".toList
  | help => "help".toList
  | version => "version".toList

/-- The letter behind a single minus sign. -/
def letter? : Flag → Option Char
  | help => some 'h'
  | version => some 'V'
  | _ => none

def ofName? (name : Text) : Option Flag :=
  all.find? fun flag ↦ flag.name == name

def ofLetter? (letter : Char) : Option Flag :=
  all.find? fun flag ↦ flag.letter? == some letter

end Flag

/-- What a command line says. -/
structure Arguments where
  command : Option Command
  logLevel : Option Log.Threshold
  config : Option RawText
  noConfig : Bool
  interval : Option Binary64
  sockstatPath : Option RawText
  netstatPath : Option RawText
  user : Option Text
  showConfig : Bool
  configFormat : Option Config.Format
  checkConfig : Bool
deriving DecidableEq, Repr

namespace Arguments

/-- The empty command line. -/
def empty : Arguments where
  command := none
  logLevel := none
  config := none
  noConfig := false
  interval := none
  sockstatPath := none
  netstatPath := none
  user := none
  showConfig := false
  configFormat := none
  checkConfig := false

/-- The format in which the configuration is shown. -/
def format (arguments : Arguments) : Config.Format :=
  arguments.configFormat.getD .yaml

/-- What the command line says about the configuration. -/
def overrides (arguments : Arguments) : Config.Overrides where
  file := arguments.config
  noFile := arguments.noConfig
  interval := arguments.interval
  sockstatPath := arguments.sockstatPath
  netstatPath := arguments.netstatPath
  user := arguments.user

end Arguments

end SocketMetrics.CommandLine
