import SocketMetrics.Config.Basic
import SocketMetrics.Files.Path
import SocketMetrics.Json.Value
import SocketMetrics.Json.Writer
import SocketMetrics.Toml.Document
import SocketMetrics.Toml.Writer
import SocketMetrics.Yaml.Document
import SocketMetrics.Yaml.Writer
/-!
The formats of configuration files. The extension of a path decides on the format, which is YAML
wherever the extension says nothing else.
-/

set_option autoImplicit false
set_option relaxedAutoImplicit false

namespace SocketMetrics.Config

open Files

/-- A format of configuration files. -/
inductive Format where
  | yaml
  | json
  | toml
deriving DecidableEq, Repr

namespace Format

def all : List Format := [yaml, json, toml]

/-- The name by which a format is asked for. -/
def name : Format → Text
  | yaml => "yaml".toList
  | json => "json".toList
  | toml => "toml".toList

/-- The format of the given name. -/
def ofName? (name : Text) : Option Format :=
  all.find? fun format ↦ format.name == name

/-- The name of a format in messages. -/
def title : Format → Text
  | yaml => "YAML".toList
  | json => "JSON".toList
  | toml => "TOML".toList

/-- The format of the file at a path. -/
def ofPath (path : RawText) : Format :=
  if extension? path = some (.ofText json.name) then json
  else if extension? path = some (.ofText toml.name) then toml
  else yaml

/-- The values that a text of the format gives, if it is one. -/
def read? : Format → Text → Option Candidates
  | yaml, text => Yaml.candidates? text
  | json, text => Json.candidates? (Key.all.map Key.name) text
  | toml, text => Toml.candidates? text

/-- Settings in the format. -/
def write : Format → Settings → Text
  | yaml, settings => Yaml.write settings
  | json, settings => Json.write settings
  | toml, settings => Toml.write settings

end Format

end SocketMetrics.Config
