import SocketMetrics.Files.Basic
import SocketMetrics.Files.Path
/-!
The file system seen from a working directory with known content. A path is walked step by step:
every step goes out from a directory, and no name is known outside of the working directory.
-/

set_option autoImplicit false
set_option relaxedAutoImplicit false

namespace SocketMetrics.Files

/-- The content of a working directory: names with the directories that lead to them, and what
stands there. The directories on the way exist too. -/
abbrev Directory := List (List RawText × Node)

/-- Where a walk has arrived. -/
inductive Place where
  /-- Below the working directory, by the names that lead there. -/
  | inside (names : List RawText)
  /-- Among directories that are not known. -/
  | outside
deriving DecidableEq, Repr

/-- The greatest number of bytes in a name. -/
def longestName : Nat := 255

/-- The greatest number of bytes in a path. -/
def longestPath : Nat := 4095

namespace Directory

/-- The directory with the given entries, by their relative paths. -/
def ofPaths (entries : List (RawText × Node)) : Directory :=
  entries.map fun (path, node) ↦ ((steps path).filter fun name ↦ name != here, node)

/-- What stands at a place, if it is known that something does. -/
def node? (directory : Directory) : Place → Option Node
  | .outside => some .directory
  | .inside names =>
    match directory.lookup names with
    | some node => some node
    | none =>
      if names.isEmpty || directory.any fun (entry, _) ↦ names.isPrefixOf entry then some .directory
      else none

/-- Goes one step on. -/
def follow (directory : Directory) (place : Place) (name : RawText) : Except Fault Place :=
  match directory.node? place with
  | some .directory =>
    if name = here then pure place
    else if name = parent then
      match place with
      | .inside (first :: names) => pure (.inside (first :: names).dropLast)
      | _ => pure .outside
    else if longestName < name.bytes.length then throw .nameTooLong
    else match place with
      | .outside => throw .noSuchFile
      | .inside names =>
        if (directory.node? (.inside (names ++ [name]))).isSome then
          pure (.inside (names ++ [name]))
        else throw .noSuchFile
  | some (.file _) | some (.locked _) => throw .notADirectory
  | none => throw .noSuchFile

/-- Finds what stands at a path. -/
def find (directory : Directory) (path : RawText) : Except Fault Node := do
  if path.bytes.contains 0 then throw .nulInName
  if path = .empty then throw .noSuchFile
  if longestPath < path.bytes.length then throw .nameTooLong
  let start := if path.bytes.head? = some slash then Place.outside else .inside []
  let place ← (steps path).foldlM directory.follow start
  match directory.node? place with
  | some node => pure node
  | none => throw .noSuchFile

/-- The file system seen from the directory. -/
def fileSystem (directory : Directory) : FileSystem :=
  ⟨directory.find⟩

end Directory

end SocketMetrics.Files
