import SocketMetrics.Netstat.Table
import SocketMetrics.Channel.Emitter
/-!
The metrics of the protocol counter table. Sections come in the order of the table, and within a
section the published counters in the order of their list. A published counter whose value is not
a counter is reported instead.
-/

set_option autoImplicit false
set_option relaxedAutoImplicit false

namespace SocketMetrics.Netstat

open Channel

/-- What is written for one published counter of a section: nothing if the section has no such
counter. -/
def Counters.entry? (counters : Counters) (timestamp : Int) (counter : Counter) : Option Entry :=
  match counters.value? counter.counter with
  | .ok none => none
  | .ok (some value) =>
    some (.metric ⟨sectionGroup counters.of.name, counter.metric, timestamp, value, counter.tags⟩)
  | .error fault => some (.diagnostic fault.message)

/-- What is written for a section. -/
def Counters.entriesAt (counters : Counters) (timestamp : Int) : List Entry :=
  Netstat.counters.filterMap (counters.entry? timestamp)

/-- What is written for a table. -/
def Table.entries (table : Table) (timestamp : Int) : List Entry :=
  table.flatMap fun counters ↦ counters.entriesAt timestamp

end SocketMetrics.Netstat
