import SocketMetrics.Sample
import SocketMetrics.Sockstat.Basic
/-!
The metrics of the socket allocation summary. Each field is published by one metric; the memory of
the transport protocols, which the summary gives in pages, is published in bytes and stays at the
greatest counter where it would exceed it. A missing field has no metric.
-/

set_option autoImplicit false
set_option relaxedAutoImplicit false

namespace SocketMetrics.Sockstat

open Number

/-- The group of all metrics of the summary. -/
def metricGroup : Text := "net.sockstat".toList

/-- The metric of one field. -/
structure Metric where
  name : Text
  tags : Option Text
  /-- The published value, if the field is present. -/
  value : Option UInt64
deriving DecidableEq, Repr

/-- The metrics of all fields, in the order of publication. -/
def metrics (record : Record) (pageSize : UInt64) : List Metric :=
  let bytes (pages : UInt64) : UInt64 := saturatingMul pages pageSize
  let tagged (name tag : String) (value : Option UInt64) : Metric :=
    ⟨name.toList, some tag.toList, value⟩
  let untagged (name : String) (value : UInt64) : Metric := ⟨name.toList, none, some value⟩
  [ tagged "num_sockets" "type=tcp" record.tcpAllocated,
    untagged "num_timewait" record.tcpTimeWait,
    tagged "sockets_inuse" "type=tcp" record.tcpInUse,
    tagged "sockets_inuse" "type=udp" record.udpInUse,
    tagged "sockets_inuse" "type=udplite" record.udpliteInUse,
    tagged "sockets_inuse" "type=raw" record.rawInUse,
    untagged "num_orphans" record.tcpOrphans,
    tagged "memory" "type=tcp" (bytes record.tcpPages),
    tagged "memory" "type=udp" (record.udpPages.map bytes),
    tagged "memory" "type=ipfrag" record.fragmentMemory,
    untagged "ipfragqueues" record.fragmentQueues]

/-- The samples of a record at the given time. -/
def samples (timestamp : Int) (record : Record) (pageSize : UInt64) : List Sample :=
  (metrics record pageSize).filterMap fun metric ↦
    metric.value.map fun value ↦ ⟨metricGroup, metric.name, timestamp, value, metric.tags⟩

end SocketMetrics.Sockstat
