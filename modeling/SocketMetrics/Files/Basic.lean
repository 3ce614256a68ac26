import SocketMetrics.Channel.Source
import SocketMetrics.Text.Raw
/-!
Files, as far as the collector looks at them: a file system tells for each path what stands there,
or why nothing can be found. A directory can be opened like a file and fails only when it is read;
what cannot be opened at all is found nevertheless.
-/

set_option autoImplicit false
set_option relaxedAutoImplicit false

namespace SocketMetrics.Files

open Channel

/-- What stands at a path. -/
inductive Node where
  | file (bytes : List UInt8)
  | directory
  /-- Something that cannot be opened. -/
  | locked (fault : Fault)
deriving DecidableEq, Repr

/-- The data of a node, as it is read once the node is open. -/
def Node.version : Node → Except Fault Version
  | file bytes => .ok (.ofBytes bytes)
  | directory => .ok .directory
  | locked fault => .error fault

/-- The state of a file system. -/
structure FileSystem where
  /-- What stands at a path. -/
  find : RawText → Except Fault Node

namespace FileSystem

/-- The file system of which no more is known than what was found at some paths. -/
def ofObservations (observations : List (RawText × Except Fault Node)) : FileSystem :=
  ⟨fun path ↦ (observations.lookup path).getD (.error .noSuchFile)⟩

/-- Whether anything stands at a path. -/
def contains (files : FileSystem) (path : RawText) : Bool :=
  (files.find path).isOk

/-- The data behind a path, if it can be opened. -/
def versionAt (files : FileSystem) (path : RawText) : Except Fault Version := do
  (← files.find path).version

/-- Opens the file at a path. -/
def openAt (files : FileSystem) (path : RawText) : Except Fault Source :=
  (files.versionAt path).map .constant

/-- The whole text of the file at a path. -/
def readText (files : FileSystem) (path : RawText) : Except Fault Text := do
  (← files.versionAt path).content

end FileSystem

end SocketMetrics.Files
