import SocketMetrics.Netstat.Section
import SocketMetrics.Netstat.Counter
import SocketMetrics.Number.Decimal
import SocketMetrics.Text.Quoted
/-!
The counters of one section of the protocol counter table. A value is kept as it was written until
a number is asked for. The kernel counts the overflows of the listen queues twice;
`Counters.correct` takes them out of `ListenDrops`.
-/

set_option autoImplicit false
set_option relaxedAutoImplicit false

namespace SocketMetrics.Netstat

open Number

/-- Why a table could not be read. The causes that concern its shape carry the whole content. -/
inductive TableError where
  /-- A section has another number of lines than two. -/
  | lineCount (of : Section) (lines : Nat) (content : Text)
  /-- The two lines of a section differ in width. -/
  | columnMismatch (of : Section) (names values : Nat) (content : Text)
  /-- The value of a counter that is needed is not a counter. -/
  | invalidValue (of : Section) (counter value : Text)
deriving DecidableEq, Repr

/-- The message for an unreadable table or value. -/
def TableError.message : TableError → Text
  | lineCount of lines content =>
    "Section ".toList ++ of.name.quote ++ " has ".toList ++ decimal lines
      ++ " line(s) in /proc/net/netstat, expected 2 (file=".toList ++ content.quote ++ [')']
  | columnMismatch of names values content =>
    "Section ".toList ++ of.name.quote ++ " has ".toList ++ decimal names
      ++ " counter names but ".toList ++ decimal values ++ " values (file=".toList
      ++ content.quote ++ [')']
  | invalidValue of counter value =>
    "Counter ".toList ++ counter ++ " in section ".toList ++ of.name.quote
      ++ " has non-integer value ".toList ++ value.quote

/-- The counters of one section as they stand in the table. Of several entries of one name the
first is in force. -/
structure Counters where
  of : Section
  entries : List (Text × Text)
deriving DecidableEq, Repr

namespace Counters

/-- The value of a counter as it was written, if the section has the counter. -/
def raw? (counters : Counters) (counter : Text) : Option Text :=
  counters.entries.lookup counter

/-- The value of a counter as a number, if the section has the counter. -/
def value? (counters : Counters) (counter : Text) : Except TableError (Option UInt64) :=
  match counters.raw? counter with
  | none => pure none
  | some raw =>
    match count? raw with
    | some value => pure (some value)
    | none => throw (.invalidValue counters.of counter raw)

/-- Puts a value in force. -/
def insert (counters : Counters) (counter raw : Text) : Counters :=
  { counters with entries := (counter, raw) :: counters.entries }

/-- Takes the overflows out of the drops, down to zero. A section without drops stays as it is,
and missing overflows count as zero. -/
def correct (counters : Counters) : Except TableError Counters := do
  match ← counters.value? listenDrops with
  | none => return counters
  | some drops =>
    let overflows := (← counters.value? listenOverflows).getD 0
    return counters.insert listenDrops (decimal (saturatingSub drops overflows).toNat)

end Counters

end SocketMetrics.Netstat
