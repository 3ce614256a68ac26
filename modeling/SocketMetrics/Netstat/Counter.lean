import SocketMetrics.Text.Basic
/-!
The counters of the protocol table that are published, with the metric and the tag under which
each of them is. A counter that `counters` does not list is not published. Within a section the
metrics come out in the order of this list.
-/

set_option autoImplicit false
set_option relaxedAutoImplicit false

namespace SocketMetrics.Netstat

/-- A published counter. -/
structure Counter where
  /-- The name of the counter in the table. -/
  counter : Text
  metric : Text
  tags : Option Text
deriving DecidableEq, Repr

/-- The counter that the kernel also increments with every overflow of a listen queue. -/
def listenDrops : Text := "ListenDrops".toList

def listenOverflows : Text := "ListenOverflows".toList

/-- A counter whose metric is told apart from its siblings by a tag. -/
def tagged (counter metric tag : String) : Counter :=
  ⟨counter.toList, metric.toList, some tag.toList⟩

/-- A counter that has its metric to itself. -/
def untagged (counter metric : String) : Counter :=
  ⟨counter.toList, metric.toList, none⟩

/-- The published counters. -/
def counters : List Counter := [
  tagged "SyncookiesSent" "syncookies" "type=sent",
  tagged "SyncookiesRecv" "syncookies" "type=received",
  tagged "SyncookiesFailed" "syncookies" "type=failed",
  tagged "OfoPruned" "memory.prune" "type=drop_ofo_queue",
  tagged "RcvPruned" "memory.prune" "type=drop_received",
  tagged "DelayedACKs" "delayedack" "type=sent",
  tagged "DelayedACKLocked" "delayedack" "type=locked",
  tagged "DelayedACKLost" "delayedack" "type=lost",
  tagged "ListenOverflows" "failed_accept" "reason=full_acceptq",
  tagged "ListenDrops" "failed_accept" "reason=other",
  tagged "TCPRenoRecovery" "packetloss.recovery" "type=fast_retransmit",
  tagged "TCPSackRecovery" "packetloss.recovery" "type=sack",
  tagged "TCPFACKReorder" "reording" "detectedby=fack",
  tagged "TCPSACKReorder" "reording" "detectedby=sack",
  tagged "TCPRenoReorder" "reording" "detectedby=fast_retransmit",
  tagged "TCPTSReorder" "reording" "detectedby=timestamp",
  tagged "TCPFullUndo" "congestion.recovery" "type=full_undo",
  tagged "TCPPartialUndo" "congestion.recovery" "type=hoe_heuristic",
  tagged "TCPDSACKUndo" "congestion.recovery" "type=sack",
  tagged "TCPLossUndo" "congestion.recovery" "type=ack",
  tagged "TCPAbortOnSyn" "abort" "type=unexpected_syn",
  tagged "TCPAbortOnData" "abort" "type=data_after_fin_wait1",
  tagged "TCPAbortOnClose" "abort" "type=data_after_close",
  tagged "TCPAbortOnMemory" "abort" "type=out_of_memory",
  tagged "TCPAbortOnTimeout" "abort" "type=timeout",
  tagged "TCPAbortOnLinger" "abort" "type=linger",
  untagged "TCPAbortFailed" "abort.failed",
  untagged "TCPMemoryPressures" "memory.pressure",
  tagged "TCPSACKDiscard" "invalid_sack" "type=invalid",
  tagged "TCPDSACKIgnoredOld" "invalid_sack" "type=retransmit",
  tagged "TCPDSACKIgnoredNoUndo" "invalid_sack" "type=olddup",
  untagged "TCPBacklogDrop" "receive.queue.full",
  tagged "OutRsts" "resets" "direction=out",
  tagged "InErrs" "errors" "direction=in"]

/-- The published counter of the given name. -/
def Counter.find? (name : Text) : Option Counter :=
  counters.find? fun counter ↦ counter.counter == name

/-- The group of all metrics from the table. -/
def metricRoot : Text := "net.stat".toList

/-- The group of the metrics of a section. -/
def sectionGroup (sectionName : Text) : Text :=
  metricRoot ++ '.' :: sectionName

/-- The metric under which a counter of a section is published. -/
structure Published where
  group : Text
  metric : Text
  tags : Option Text
deriving DecidableEq, Repr

/-- Finds the metric under which a counter of a section is published, if it is. -/
def Published.find? (sectionName counter : Text) : Option Published :=
  (Counter.find? counter).map fun entry ↦
    ⟨sectionGroup sectionName, entry.metric, entry.tags⟩

end SocketMetrics.Netstat
