import SocketMetrics.Pass.Basic
import SocketMetrics.Proofs.Channel.Failure
import SocketMetrics.Proofs.Text.Encoding
/-!
# What a pass writes

The entries of a pass (`allEntries`) are those of its two parts, and a pass is the delivery of them
followed by a flush of both streams. It ends with the fault of the delivery if there is one
(`run_of_stopped`), and otherwise with the fault of the flush or with a full account of the entries
(`run_of_delivered`). Whatever happens, nothing is written but by the delivery (`written_run`), and
a pass that succeeds has delivered everything (`run_of_ok`). Over streams that never fail a pass is
therefore a function of what its two sources show (`run_eq_of_neverFail`), and the next pass can
begin where it leaves off (`neverFail_finalEmitter`).
-/

set_option autoImplicit false
set_option relaxedAutoImplicit false

namespace SocketMetrics.Pass

open Channel

/-- The text that a source shows to the next pass. -/
def nextContent (source : Source) : Except Fault Text :=
  source.rewind.current.content

/-- What a source with a constant text shows to the next pass. -/
theorem nextContent_constant (text : Text) :
    nextContent (.constant (.ofBytes text.toUtf8)) = .ok text := by
  have hbytes : (Version.ofBytes text.toUtf8).chunks.flatten = text.toUtf8 := by
    simp [Version.ofBytes]
  change (Version.ofBytes text.toUtf8).content = .ok text
  unfold Version.content
  rw [hbytes, Text.ofUtf8?_toUtf8]
  rfl

/-- What is written in a pass over streams that never fail: the entries of both parts. -/
def allEntries (sources : Sources) (timestamp : Int) (pageSize : UInt64) : List Entry :=
  (sockstatPart timestamp pageSize (nextContent sources.sockstat)).entries ++
    (netstatPart timestamp (nextContent sources.netstat)).entries

/-- The account of a pass in which all entries were written. -/
def fullReport (sources : Sources) (timestamp : Int) (pageSize : UInt64) : Report where
  timestamp := timestamp
  emitted := (metricLines (allEntries sources timestamp pageSize)).length
  diagnostics := (messageLines (allEntries sources timestamp pageSize)).length
  sockstatOk := (sockstatPart timestamp pageSize (nextContent sources.sockstat)).ok
  netstatOk := (netstatPart timestamp (nextContent sources.netstat)).ok

/-- The emitter of a pass in which all entries were written and flushed. -/
def finalEmitter (sources : Sources) (streams : Streams) (timestamp : Int) (pageSize : UInt64) :
    Emitter :=
  ((Emitter.start streams timestamp).deliveredAll (allEntries sources timestamp pageSize)).flushed

/-! ### Delivery and flush -/

variable {sources : Sources} {streams : Streams} {timestamp : Int} {pageSize : UInt64}

/-- A pass ends with the fault of its delivery. -/
theorem run_of_stopped {emitter : Emitter} {fault : Fault}
    (hdeliver : (Emitter.start streams timestamp).deliver (allEntries sources timestamp pageSize) =
      (emitter, some fault)) :
    (run sources streams timestamp pageSize).streams = emitter.streams ∧
      (run sources streams timestamp pageSize).outcome = .error fault := by
  rw [allEntries, Emitter.deliver_append] at hdeliver
  unfold nextContent at hdeliver
  unfold run
  simp only [Source.content_reread]
  split at hdeliver
  · next between hsummary =>
    simp only [hsummary, hdeliver]
    exact ⟨rfl, rfl⟩
  · simp only [hdeliver]
    exact ⟨rfl, rfl⟩

/-- A pass that has delivered its entries flushes its streams, and ends with the fault of the flush
or with an account of all entries. -/
theorem run_of_delivered {delivered : Emitter}
    (hdeliver : (Emitter.start streams timestamp).deliver (allEntries sources timestamp pageSize) =
      (delivered, none)) :
    run sources streams timestamp pageSize =
      match delivered.flush with
      | (emitter, some fault) =>
        failed ⟨sources.sockstat.reread.source, sources.netstat.reread.source⟩ emitter fault
      | (emitter, none) =>
        ⟨⟨sources.sockstat.reread.source, sources.netstat.reread.source⟩, emitter.streams,
          .ok (fullReport sources timestamp pageSize),
          [(fullReport sources timestamp pageSize).record]⟩ := by
  have hall := Emitter.eq_deliveredAll_of_deliver hdeliver
  have hcounts := delivered.counts_flush
  rw [allEntries, Emitter.deliver_append] at hdeliver
  unfold nextContent at hdeliver
  unfold run
  simp only [Source.content_reread]
  split at hdeliver
  case h_2 hfailed => exact absurd hdeliver (hfailed _)
  case h_1 between hsummary =>
    simp only [hsummary, hdeliver]
    rcases hflush : delivered.flush with ⟨emitter, - | fault⟩
    case some => rfl
    case none =>
      rw [hflush, hall] at hcounts
      have hemitted : emitter.emitted =
          (metricLines (allEntries sources timestamp pageSize)).length :=
        hcounts.1.trans (Nat.zero_add _)
      have hdiagnostics : emitter.diagnostics =
          (messageLines (allEntries sources timestamp pageSize)).length :=
        hcounts.2.trans (Nat.zero_add _)
      simp only [fullReport, nextContent, hemitted, hdiagnostics]

/-- What a pass writes is what its delivery writes. -/
theorem written_run (sources : Sources) (streams : Streams) (timestamp : Int) (pageSize : UInt64) :
    let emitter := ((Emitter.start streams timestamp).deliver
      (allEntries sources timestamp pageSize)).1
    (run sources streams timestamp pageSize).streams.out.written = emitter.streams.out.written ∧
      (run sources streams timestamp pageSize).streams.err.written =
        emitter.streams.err.written := by
  intro emitter
  rcases hdeliver : (Emitter.start streams timestamp).deliver
    (allEntries sources timestamp pageSize) with ⟨delivered, - | fault⟩
  · have hemitter : emitter = delivered := congrArg Prod.fst hdeliver
    have hflush := delivered.written_flush
    rw [hemitter, run_of_delivered hdeliver]
    rcases hflushed : delivered.flush with ⟨flushed, - | fault⟩ <;> rwa [hflushed] at hflush
  · have hemitter : emitter = delivered := congrArg Prod.fst hdeliver
    rw [hemitter, (run_of_stopped hdeliver).1]
    exact ⟨rfl, rfl⟩

/-- A pass that succeeds has delivered all entries and gives a full account of them. -/
theorem run_of_ok {report : Report}
    (hok : (run sources streams timestamp pageSize).outcome = .ok report) :
    (Emitter.start streams timestamp).deliver (allEntries sources timestamp pageSize) =
        ((Emitter.start streams timestamp).deliveredAll (allEntries sources timestamp pageSize),
          none) ∧
      report = fullReport sources timestamp pageSize := by
  rcases hdeliver : (Emitter.start streams timestamp).deliver
    (allEntries sources timestamp pageSize) with ⟨delivered, - | fault⟩
  · rw [run_of_delivered hdeliver] at hok
    rw [Emitter.eq_deliveredAll_of_deliver hdeliver]
    refine ⟨rfl, ?_⟩
    split at hok
    · cases hok
    · exact (Except.ok.inj hok).symm
  · rw [(run_of_stopped hdeliver).2] at hok
    cases hok

/-- A pass over streams that never fail brings up the next version of both sources, delivers the
entries of both parts and flushes. -/
theorem run_eq_of_neverFail (sources : Sources) {streams : Streams} (timestamp : Int)
    (pageSize : UInt64) (hstreams : streams.NeverFail) :
    run sources streams timestamp pageSize =
      ⟨⟨sources.sockstat.reread.source, sources.netstat.reread.source⟩,
        (finalEmitter sources streams timestamp pageSize).streams,
        .ok (fullReport sources timestamp pageSize),
        [(fullReport sources timestamp pageSize).record]⟩ := by
  have hstart : (Emitter.start streams timestamp).streams.NeverFail := hstreams
  have hall := Emitter.neverFail_deliveredAll hstart (allEntries sources timestamp pageSize)
  rw [run_of_delivered (Emitter.deliver_of_neverFail hstart _), Emitter.flush_of_neverFail hall]
  rfl

/-- A pass over streams that never fail writes all of its metric lines. -/
theorem written_of_neverFail (sources : Sources) {streams : Streams} (timestamp : Int)
    (pageSize : UInt64) (hstreams : streams.NeverFail) :
    (run sources streams timestamp pageSize).streams.out.written = streams.out.written ++
      linesText (metricLines (allEntries sources timestamp pageSize)) := by
  rw [run_eq_of_neverFail sources timestamp pageSize hstreams]
  rfl

/-- The streams of a pass over streams that never fail never fail either. -/
theorem neverFail_finalEmitter (sources : Sources) {streams : Streams} (timestamp : Int)
    (pageSize : UInt64) (hstreams : streams.NeverFail) :
    (finalEmitter sources streams timestamp pageSize).streams.NeverFail := by
  have hstart : (Emitter.start streams timestamp).streams.NeverFail := hstreams
  exact Emitter.neverFail_flushed (Emitter.neverFail_deliveredAll hstart _)

end SocketMetrics.Pass
