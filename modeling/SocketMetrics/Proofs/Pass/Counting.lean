import SocketMetrics.Proofs.Channel.Lines
import SocketMetrics.Proofs.Pass.Entries
/-!
# The report counts lines

The report of a pass that succeeds counts the line feeds that the pass has written to either stream
(`counts_lines_of_run`). Contents are arbitrary: whatever they hold appears quoted in a message, so
that no content can break one into several lines. The faults of the two sources appear as they are;
theirs are the only texts that have to be single lines.
-/

set_option autoImplicit false
set_option relaxedAutoImplicit false

namespace SocketMetrics.Pass

open Channel

/-- A pass that succeeds reports as many metrics and messages as there are line feeds in what it has
written. What it has written to a stream ends in a line feed if it is not empty, and every message
is a single line. -/
theorem counts_lines_of_run {sources : Sources} {streams : Streams} {timestamp : Int}
    {pageSize : UInt64} {report : Report} (hsockstat : sources.sockstat.FailsOnOneLine)
    (hnetstat : sources.netstat.FailsOnOneLine)
    (hok : (run sources streams timestamp pageSize).outcome = .ok report) :
    ∃ out err messages,
      (run sources streams timestamp pageSize).streams.out.written = streams.out.written ++ out ∧
      (run sources streams timestamp pageSize).streams.err.written = streams.err.written ++ err ∧
      report.emitted = out.lineFeeds ∧ report.diagnostics = err.lineFeeds ∧
      (out ≠ [] → out.getLast? = some '\n') ∧ (err ≠ [] → err.getLast? = some '\n') ∧
      err = linesText messages ∧ ∀ message ∈ messages, '\n' ∉ message := by
  obtain ⟨hdeliver, rfl⟩ := run_of_ok hok
  obtain ⟨hout, herr⟩ := written_run sources streams timestamp pageSize
  obtain ⟨hmetrics, hmessages⟩ :=
    lineFeed_not_mem_of_isOneLine (isOneLine_of_mem_allEntries hsockstat hnetstat)
  rw [hdeliver] at hout herr
  exact ⟨_, _, messageLines (allEntries sources timestamp pageSize), hout, herr,
    (Text.lineFeeds_linesText hmetrics).symm, (Text.lineFeeds_linesText hmessages).symm,
    Text.getLast?_linesText, Text.getLast?_linesText, rfl, hmessages⟩

/-- A summary that is a directory, and a table with quotes, control characters and line ends of
another kind in the place of a header, of a word and of a value: four messages, four lines. -/
theorem counts_lines_of_hostile_table :
    let sources : Sources := ⟨.constant .directory, .constant (.ofBytes (Text.toUtf8
      "A\\n\x00 \"b\nB\r\u2028\u0085\nTcp: OutRsts InErrs\nTcp: 5 \x07\"\\n\n".toList))⟩
    let pass := run sources .unbounded 7 4096
    sources.sockstat.FailsOnOneLine ∧ sources.netstat.FailsOnOneLine ∧
      ∃ report, pass.outcome = .ok report ∧ report.emitted = 1 ∧ report.diagnostics = 4 ∧
        pass.streams.out.written.lineFeeds = 1 ∧ pass.streams.err.written.lineFeeds = 4 := by
  intro sources pass
  have hsockstat : sources.sockstat.FailsOnOneLine := by
    rintro fault ⟨⟩
    decide +kernel
  have hnetstat : sources.netstat.FailsOnOneLine := by
    rintro fault ⟨⟩
  have hok : pass.outcome = .ok (fullReport sources 7 4096) :=
    congrArg Pass.outcome (run_eq_of_neverFail sources 7 4096 ⟨⟨rfl, rfl⟩, ⟨rfl, rfl⟩⟩)
  obtain ⟨hemitted, hdiagnostics⟩ : (fullReport sources 7 4096).emitted = 1 ∧
      (fullReport sources 7 4096).diagnostics = 4 := by
    decide +kernel
  obtain ⟨out, err, -, hout, herr, houtLines, herrLines, -⟩ :=
    counts_lines_of_run hsockstat hnetstat hok
  refine ⟨hsockstat, hnetstat, _, hok, hemitted, hdiagnostics, ?_, ?_⟩
  · rw [hout]
    exact houtLines.symm.trans hemitted
  · rw [herr]
    exact herrLines.symm.trans hdiagnostics

end SocketMetrics.Pass
