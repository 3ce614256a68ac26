import SocketMetrics.Startup.Opening
/-!
Inspecting the sources once, without publishing anything: they are opened, read and understood in
turn, and the first failure ends the inspection.
-/

set_option autoImplicit false
set_option relaxedAutoImplicit false

namespace SocketMetrics.Startup

open Channel Files

/-- What was found in sound sources. -/
structure Findings where
  /-- The number of fields present in the summary. -/
  fields : Nat
  /-- The number of sections in the table. -/
  sections : Nat
deriving DecidableEq, Repr

/-- The course of an inspection. -/
structure Inspection where
  outcome : Except SourceError Findings
  log : List Log.Record

/-- Reads the text of an open source from its beginning. -/
def readSource (path : RawText) (source : Source) : Except SourceError Text :=
  source.reread.content.mapError (.reading path)

/-- What opened sources hold, with the lines of the table that were passed over. -/
def findings (paths : SourcePaths) (sources : Sources) :
    Except SourceError (Findings × List Netstat.Warning) := do
  let summary ← readSource paths.sockstat sources.sockstat
  let record ← (Sockstat.read summary).mapError .sockstat
  let content ← readSource paths.netstat sources.netstat
  let reading := Netstat.Table.read content
  let table ← reading.table.mapError .netstat
  return (⟨Sockstat.fieldCount - record.missing, table.length⟩, reading.warnings)

/-- Inspects the sources at the given paths. Warnings are logged only when nothing has failed. -/
def inspect (files : FileSystem) (paths : SourcePaths) : Inspection :=
  match openSources files paths with
  | .error error => ⟨.error error, []⟩
  | .ok sources =>
    match findings paths sources with
    | .error error => ⟨.error error, [openedRecord paths]⟩
    | .ok (found, warnings) =>
      ⟨.ok found, openedRecord paths :: warnings.map fun warning ↦ ⟨.warn, warning.message⟩⟩

end SocketMetrics.Startup
