import SocketMetrics.Config.Decoding
import SocketMetrics.Config.Format
import SocketMetrics.Files.Basic
/-!
Loading the configuration from a file. The file is the one that is asked for, or the first of the
usual places where anything stands; without any, the standard configuration is in force. What a
file does not set keeps its standard value.
-/

set_option autoImplicit false
set_option relaxedAutoImplicit false

namespace SocketMetrics.Config

open Files

/-- Why a configuration file cannot be used. -/
inductive LoadError where
  | unreadable (path : RawText) (fault : Fault)
  | malformed (path : RawText)
deriving DecidableEq, Repr

namespace LoadError

/-- The message for an unusable configuration file. -/
def message : LoadError → Text
  | unreadable path _ => "Failed to read config file ".toList ++ path.display
  | malformed path =>
    "Invalid ".toList ++ (Format.ofPath path).title ++ " in ".toList ++ path.display

/-- The message of what lies behind the error, where it is known. -/
def cause? : LoadError → Option Text
  | unreadable _ fault => some fault.message
  | malformed _ => none

end LoadError

/-- A configuration with the file it came from, if it came from one. -/
structure Loaded where
  config : Config
  origin : Option RawText
deriving DecidableEq, Repr

/-- The places where a configuration file is looked for. -/
def usualPlaces : List RawText := List.map (fun place ↦ .ofText place.toList) [
  "/etc/netstat-collector/config.yaml",
  "./netstat-collector.yaml",
  "./netstat-collector.json",
  "./netstat-collector.toml"]

/-- The configuration in a text, in the format of its path. -/
def read? (path : RawText) (content : Text) : Option Config := do
  let config ← ofCandidates? (← (Format.ofPath path).read? content)
  return config.orElse standard

/-- Loads the configuration from the file at a path. -/
def loadFile (files : FileSystem) (path : RawText) : Except LoadError Loaded :=
  match files.readText path with
  | .error fault => .error (.unreadable path fault)
  | .ok content =>
    match read? path content with
    | none => .error (.malformed path)
    | some config => .ok ⟨config, some path⟩

/-- Loads the configuration from the given file, or from the usual places. -/
def load (files : FileSystem) (path : Option RawText) : Except LoadError Loaded :=
  match path <|> usualPlaces.find? files.contains with
  | some path => loadFile files path
  | none => .ok ⟨standard, none⟩

end SocketMetrics.Config
