import SocketMetrics.Proofs.Channel.Limits
import SocketMetrics.Proofs.Pass.Entries
/-!
# Streams that fail cut a pass off

A pass has one sequence of entries, whatever its streams are (`allEntries`). Over streams that hold
so many lines it writes the longest beginning of this sequence that fits
(`truncated_of_limitLines`). When an entry does not fit, the pass ends at once with the fault of the
stream of this entry: it writes nothing behind it, to neither stream, and flushes nothing. When all
entries fit, the output stream is flushed and then the error stream, and the pass ends with the
first fault of the two or with the account that it gives over streams that never fail.
-/

set_option autoImplicit false
set_option relaxedAutoImplicit false

namespace SocketMetrics.Pass

open Channel

/-- How a pass ends that has written the longest beginning of its entries that fits into its
streams. `report` is the account of all entries. -/
structure IsTruncated (streams : Streams) (entries written : List Entry) (report : Report)
    (pass : Pass) : Prop where
  longest : streams.IsLongestFitting entries written
  /-- No flush is seen in the streams, whether or not it would fail. -/
  of_cut : ∀ next later, entries = written ++ next :: later →
    pass.streams = streams.after written ∧ pass.outcome = .error (streams.fullFault next)
  of_out_unflushed : ∀ fault, written = entries → streams.out.flushFault = some fault →
    pass.streams = streams.after entries ∧ pass.outcome = .error fault
  of_err_unflushed : ∀ fault, written = entries → streams.out.flushFault = none →
    streams.err.flushFault = some fault →
      pass.streams = ⟨(streams.after entries).out.flushed, (streams.after entries).err⟩ ∧
        pass.outcome = .error fault
  of_flushed : written = entries → streams.out.flushFault = none →
    streams.err.flushFault = none →
      pass.streams = ⟨(streams.after entries).out.flushed, (streams.after entries).err.flushed⟩ ∧
        pass.outcome = .ok report

variable {sources : Sources} {streams : Streams} {timestamp : Int} {pageSize : UInt64}

/-- A pass that stops at an entry is cut off in front of it. -/
theorem isTruncated_of_stopped {written later : List Entry} {next : Entry} {report : Report}
    (hentries : allEntries sources timestamp pageSize = written ++ next :: later)
    (hlongest : streams.IsLongestFitting (allEntries sources timestamp pageSize) written)
    (hstopped : (Emitter.start streams timestamp).deliver (allEntries sources timestamp pageSize) =
      ((Emitter.start streams timestamp).deliveredAll written, some (streams.fullFault next))) :
    IsTruncated streams (allEntries sources timestamp pageSize) written report
      (run sources streams timestamp pageSize) := by
  have hshorter : written ≠ allEntries sources timestamp pageSize := by
    simp [hentries]
  refine ⟨hlongest, fun other others hother ↦ ?_, fun _ hall ↦ absurd hall hshorter,
    fun _ hall ↦ absurd hall hshorter, fun hall ↦ absurd hall hshorter⟩
  rw [hentries, List.append_cancel_left_eq, List.cons.injEq] at hother
  rw [← hother.1]
  exact run_of_stopped hstopped

/-- A pass that has delivered all entries ends with its flush. -/
theorem isTruncated_of_delivered (hlimits : streams.LimitLines)
    (hlongest : streams.IsLongestFitting (allEntries sources timestamp pageSize)
      (allEntries sources timestamp pageSize))
    (hdeliver : (Emitter.start streams timestamp).deliver (allEntries sources timestamp pageSize) =
      ((Emitter.start streams timestamp).deliveredAll (allEntries sources timestamp pageSize),
        none)) :
    IsTruncated streams (allEntries sources timestamp pageSize)
      (allEntries sources timestamp pageSize) (fullReport sources timestamp pageSize)
      (run sources streams timestamp pageSize) := by
  have hafter := hlimits.after (allEntries sources timestamp pageSize)
  have hout := hafter.out.flushObstacle?_eq
  have herr := hafter.err.flushObstacle?_eq
  refine ⟨hlongest, fun next later hmore ↦ ?_, fun fault _ hfault ↦ ?_,
    fun fault _ hnone hfault ↦ ?_, fun _ hnone hnoneErr ↦ ?_⟩
  · simp at hmore
  · rw [run_of_delivered hdeliver, Emitter.flush_of_out_fails (hout.trans hfault)]
    exact ⟨rfl, rfl⟩
  · rw [run_of_delivered hdeliver,
      Emitter.flush_of_err_fails (hout.trans hnone) (herr.trans hfault)]
    exact ⟨rfl, rfl⟩
  · rw [run_of_delivered hdeliver,
      Emitter.flush_of_obstacle?_eq_none (hout.trans hnone) (herr.trans hnoneErr)]
    exact ⟨rfl, rfl⟩

/-- Over streams that hold so many lines a pass is the pass over streams that never fail, cut off
behind the longest beginning that fits. -/
theorem truncated_of_limitLines {sources : Sources} {streams : Streams} (timestamp : Int)
    (pageSize : UInt64) (hlimits : streams.LimitLines)
    (hsockstat : sources.sockstat.FailsOnOneLine) (hnetstat : sources.netstat.FailsOnOneLine) :
    let entries := allEntries sources timestamp pageSize
    let free := run sources .unbounded timestamp pageSize
    free.streams.out.written = linesText (metricLines entries) ∧
      free.streams.err.written = linesText (messageLines entries) ∧
      ∃ report written, free.outcome = .ok report ∧
        IsTruncated streams entries written report (run sources streams timestamp pageSize) := by
  intro entries free
  have hfree := run_eq_of_neverFail sources timestamp pageSize
    (⟨⟨rfl, rfl⟩, ⟨rfl, rfl⟩⟩ : Streams.unbounded.NeverFail)
  have hentries : ∀ entry ∈ entries, entry.IsOneLine :=
    isOneLine_of_mem_allEntries hsockstat hnetstat
  have hstart : (Emitter.start streams timestamp).streams.LimitLines := hlimits
  refine ⟨congrArg (·.streams.out.written) hfree, congrArg (·.streams.err.written) hfree,
    fullReport sources timestamp pageSize, ?_⟩
  obtain ⟨written, hlongest, ⟨rfl, hdeliver⟩ | ⟨next, later, hnext, hstopped⟩⟩ :=
    Emitter.deliver_of_limitLines hstart hentries
  · exact ⟨entries, congrArg outcome hfree, isTruncated_of_delivered hlimits hlongest hdeliver⟩
  · exact ⟨written, congrArg outcome hfree, isTruncated_of_stopped hnext hlongest hstopped⟩

/-- With room for one metric, a pass writes two messages and one metric and flushes nothing. -/
theorem cut_off_behind_first_metric :
    let sources : Sources := ⟨.constant .directory,
      .constant (.ofBytes (Text.toUtf8 "Tcp: OutRsts InErrs\nMystery: 1\nTcp: 5 6\n".toList))⟩
    let streams : Streams :=
      ⟨.empty (.lines 1) .noSpace none, .empty (.lines 5) .nulInName (some .noSpace)⟩
    let pass := run sources streams 7 4096
    streams.LimitLines ∧ sources.sockstat.FailsOnOneLine ∧ sources.netstat.FailsOnOneLine ∧
      pass.outcome = .error .noSpace ∧
      pass.streams.out.written = "net.stat.tcp.resets 7 5 direction=out\n".toList ∧
      pass.streams.err.written.lineFeeds = 2 ∧ pass.streams.out.flushes = 0 := by
  intro sources streams pass
  have hlimits : streams.LimitLines := by
    constructor <;> rintro limit ⟨⟩
  have hsockstat : sources.sockstat.FailsOnOneLine := by
    rintro fault ⟨⟩
    decide +kernel
  have hnetstat : sources.netstat.FailsOnOneLine := by
    rintro fault ⟨⟩
  let before : List Entry := [
    .diagnostic "Failed to read sockstat: Is a directory (os error 21)".toList,
    .diagnostic ("Unrecognized line in /proc/net/netstat: [\"Mystery:\", \"1\"] ".toList ++
      "(file=\"Tcp: OutRsts InErrs\\nMystery: 1\\nTcp: 5 6\\n\")".toList),
    .metric ⟨"net.stat.tcp".toList, "resets".toList, 7, 5, some "direction=out".toList⟩]
  let next : Entry :=
    .metric ⟨"net.stat.tcp".toList, "errors".toList, 7, 6, some "direction=in".toList⟩
  have hentries : allEntries sources 7 4096 = before ++ next :: [] := by
    decide +kernel
  have hroom : streams.HaveRoomFor before := by
    constructor
    · rintro limit ⟨⟩
      decide
    · rintro limit ⟨⟩
      decide
  have hfull : ¬ streams.HaveRoomFor (before ++ [next]) :=
    fun hroom ↦ absurd (hroom.out 1 rfl) (by decide)
  obtain ⟨-, -, report, written, -, htruncated⟩ :=
    truncated_of_limitLines 7 4096 hlimits hsockstat hnetstat
  have hlongest := htruncated.longest
  rw [hentries] at hlongest
  obtain rfl := hlongest.eq_of_not_haveRoomFor hroom hfull
  obtain ⟨hstreams, houtcome⟩ := htruncated.of_cut next [] hentries
  refine ⟨hlimits, hsockstat, hnetstat, houtcome, ?_, ?_, ?_⟩
  · rw [hstreams]
    decide +kernel
  · rw [hstreams]
    decide +kernel
  · rw [hstreams]
    rfl

end SocketMetrics.Pass
