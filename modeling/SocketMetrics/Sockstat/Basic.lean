import SocketMetrics.Number.Decimal
import SocketMetrics.Text.Quoted
/-!
The socket allocation summary. `Sockstat.Fields` arranges one value for each field of the summary;
its two optional fields are missing where the kernel does not account for them. A record holds
64-bit counters, and the numerals from which it was read form a `Fields Text`.
-/

set_option autoImplicit false
set_option relaxedAutoImplicit false

namespace SocketMetrics.Sockstat

/-- One value for each field of the summary, in the order of the file. -/
structure Fields (α : Type) where
  tcpInUse : α
  tcpOrphans : α
  tcpTimeWait : α
  tcpAllocated : α
  tcpPages : α
  udpInUse : α
  /-- Missing where the kernel does not account for the memory of datagram sockets. -/
  udpPages : Option α
  /-- Missing where the kernel has no such protocol. -/
  udpliteInUse : Option α
  rawInUse : α
  fragmentQueues : α
  fragmentMemory : α
deriving DecidableEq, Repr

/-- The counters of one read of the summary. Memory is in pages for the two transport protocols
and in bytes for fragments. -/
abbrev Record := Fields UInt64

/-- The name of a field. -/
inductive Field where
  | tcpInUse
  | tcpOrphans
  | tcpTimeWait
  | tcpAllocated
  | tcpPages
  | udpInUse
  | udpPages
  | udpliteInUse
  | rawInUse
  | fragmentQueues
  | fragmentMemory
deriving DecidableEq, Repr

/-- The name by which messages call a field. -/
def Field.name : Field → Text
  | tcpInUse => "tcp_inuse".toList
  | tcpOrphans => "orphans".toList
  | tcpTimeWait => "tw_count".toList
  | tcpAllocated => "tcp_sockets".toList
  | tcpPages => "tcp_pages".toList
  | udpInUse => "udp_inuse".toList
  | udpPages => "udp_pages".toList
  | udpliteInUse => "udplite_inuse".toList
  | rawInUse => "raw_inuse".toList
  | fragmentQueues => "ip_frag_nqueues".toList
  | fragmentMemory => "ip_frag_mem".toList

namespace Fields

/-- Replaces every value that is present, in the order of the file, and stops at the first field
whose value is refused. -/
def traverse {α β ε : Type} (f : Field → α → Except ε β) (fields : Fields α) :
    Except ε (Fields β) := do
  let tcpInUse ← f .tcpInUse fields.tcpInUse
  let tcpOrphans ← f .tcpOrphans fields.tcpOrphans
  let tcpTimeWait ← f .tcpTimeWait fields.tcpTimeWait
  let tcpAllocated ← f .tcpAllocated fields.tcpAllocated
  let tcpPages ← f .tcpPages fields.tcpPages
  let udpInUse ← f .udpInUse fields.udpInUse
  let udpPages ← fields.udpPages.mapM (f .udpPages)
  let udpliteInUse ← fields.udpliteInUse.mapM (f .udpliteInUse)
  let rawInUse ← f .rawInUse fields.rawInUse
  let fragmentQueues ← f .fragmentQueues fields.fragmentQueues
  let fragmentMemory ← f .fragmentMemory fields.fragmentMemory
  return {
    tcpInUse, tcpOrphans, tcpTimeWait, tcpAllocated, tcpPages, udpInUse, udpPages, udpliteInUse,
    rawInUse, fragmentQueues, fragmentMemory }

/-- Replaces every value that is present. -/
def map {α β : Type} (f : α → β) (fields : Fields α) : Fields β where
  tcpInUse := f fields.tcpInUse
  tcpOrphans := f fields.tcpOrphans
  tcpTimeWait := f fields.tcpTimeWait
  tcpAllocated := f fields.tcpAllocated
  tcpPages := f fields.tcpPages
  udpInUse := f fields.udpInUse
  udpPages := fields.udpPages.map f
  udpliteInUse := fields.udpliteInUse.map f
  rawInUse := f fields.rawInUse
  fragmentQueues := f fields.fragmentQueues
  fragmentMemory := f fields.fragmentMemory

/-- The number of optional fields that are missing. -/
def missing {α : Type} (fields : Fields α) : Nat :=
  (if fields.udpPages.isNone then 1 else 0) + (if fields.udpliteInUse.isNone then 1 else 0)

end Fields

/-- The number of fields of a summary in which none is missing. -/
def fieldCount : Nat := 11

/-- Why a summary could not be read; each cause carries the whole content. -/
inductive ReadError where
  /-- The content does not begin with a summary. -/
  | grammar (content : Text)
  /-- A field exceeds 64 bits. -/
  | outOfRange (field : Field) (content : Text)
deriving DecidableEq, Repr

/-- The message for an unreadable summary. -/
def ReadError.message : ReadError → Text
  | grammar content => "Cannot parse sockstat: ".toList ++ content.quote
  | outOfRange field content =>
    "Sockstat field ".toList ++ field.name ++ " out of range in ".toList ++ content.quote

end SocketMetrics.Sockstat
