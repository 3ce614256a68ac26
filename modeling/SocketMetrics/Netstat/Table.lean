import SocketMetrics.Netstat.Scan
/-!
The protocol counter table. Each section takes two lines under the same header or under headers
that fold into the same section: the first names the counters, the second holds their values.
`Table.read` collects the lines of every section wherever they stand, refuses a section that has
not exactly two lines of equal width, and takes the overflows of the listen queues, which the
kernel counts twice, out of `ListenDrops`. Lines under unknown headers become warnings.
-/

set_option autoImplicit false
set_option relaxedAutoImplicit false

namespace SocketMetrics.Netstat

/-- The sections of one content, in the order in which they first appear. -/
abbrev Table := List Counters

/-- What reading a content gives: the table or the reason why there is none, and the warnings
found until then. -/
structure Reading where
  warnings : List Warning
  table : Except TableError Table

/-- Reads the whole content. A mismatch of widths ends the reading at its line; the other faults
come to light when all lines have been seen. -/
def Table.read (content : Text) : Reading :=
  let (warnings, scan) := Scan.start.lines content content.lines
  { warnings
    table := do
      let sections ← (← scan).accumulators.mapM (Accumulator.finish content)
      sections.mapM Counters.correct }

/-- The counters of a section of the table, found by name. -/
def Table.section? (table : Table) (name : Text) : Option Counters :=
  table.find? fun counters ↦ counters.of.name == name

end SocketMetrics.Netstat
