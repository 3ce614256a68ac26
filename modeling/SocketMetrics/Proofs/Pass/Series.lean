import SocketMetrics.Proofs.Channel.Lines
import SocketMetrics.Proofs.Pass.Entries
/-!
# One line for each time series

Whatever its sources show and however its streams behave, a pass writes at most one line for each
time series (`distinct_series_of_run`). The lines of the output stream are the first metric lines of
the pass in their order (`shows_out_deliver`): a stream that fails cuts them off, if need be behind
the content of a line, and never changes or repeats one. The samples of a pass belong to distinct
series, and the series of a sample can be read off its line (`map_series?_metricLines`).
-/

set_option autoImplicit false
set_option relaxedAutoImplicit false

namespace SocketMetrics

open Channel

/-- A delivery writes the first metric lines to the output stream. -/
theorem Channel.Emitter.shows_out_deliver (emitter : Emitter) (entries : List Entry) :
    ∃ lines text, lines <+: metricLines entries ∧
      (emitter.deliver entries).1.streams.out.written = emitter.streams.out.written ++ text ∧
      text.Shows lines := by
  rcases emitter.deliver_cases entries with hall |
    ⟨written, next, later, taken, rfl, htaken, hstopped⟩
  · refine ⟨metricLines entries, linesText (metricLines entries), List.prefix_rfl, ?_, Or.inl rfl⟩
    rw [hall]
    rfl
  · have hbefore : metricLines written <+: metricLines (written ++ next :: later) := by
      rw [metricLines_append]
      exact List.prefix_append _ _
    rw [hstopped]
    cases next with
    | diagnostic message =>
      exact ⟨metricLines written, linesText (metricLines written), hbefore, rfl, Or.inl rfl⟩
    | metric sample =>
      -- of the refused line the output stream holds nothing, or all but the line feed
      rcases htaken with rfl | rfl
      · refine ⟨metricLines written, linesText (metricLines written), hbefore, ?_, Or.inl rfl⟩
        rw [Emitter.torn_nil]
        rfl
      · refine ⟨metricLines written ++ [sample.line],
          linesText (metricLines written) ++ sample.line, ?_, ?_, Or.inr ⟨_, _, rfl, rfl⟩⟩
        · simp [metricLines]
        · rw [← List.append_assoc]
          rfl

namespace Pass

/-- The metric lines of a pass are single lines and not empty. -/
theorem isOneLine_of_mem_metricLines {sources : Sources} {timestamp : Int} {pageSize : UInt64}
    {line : Text} (hline : line ∈ metricLines (allEntries sources timestamp pageSize)) :
    '\n' ∉ line ∧ line ≠ [] := by
  rw [metricLines_eq_map_line] at hline
  obtain ⟨sample, hsample, rfl⟩ := List.mem_map.mp hline
  have hclean := isClean_of_mem_samples hsample
  exact ⟨hclean.lineFeed_not_mem_line, hclean.line_ne_nil⟩

/-- The series of the samples of a pass can be read off their lines. -/
theorem map_series?_metricLines (sources : Sources) (timestamp : Int) (pageSize : UInt64) :
    (metricLines (allEntries sources timestamp pageSize)).map Sample.series? =
      ((samples sources timestamp pageSize).map Sample.series).map some := by
  rw [metricLines_eq_map_line, List.map_map, List.map_map]
  exact List.map_congr_left fun sample hsample ↦ (isClean_of_mem_samples hsample).series?_line

/-- The lines that a pass writes to the output stream are the first of its metric lines, and are all
of them if the pass succeeds. Each of them shows a time series, and no two of them the same. -/
theorem distinct_series_of_run (sources : Sources) (streams : Streams) (timestamp : Int)
    (pageSize : UInt64) :
    ∃ text, (run sources streams timestamp pageSize).streams.out.written =
        streams.out.written ++ text ∧
      let lines := text.lines.filter fun line ↦ !line.isEmpty
      (∀ line ∈ lines, ∃ series, Sample.series? line = some series) ∧
        (lines.map Sample.series?).Nodup ∧
        lines <+: metricLines (allEntries sources timestamp pageSize) ∧
        ((∃ report, (run sources streams timestamp pageSize).outcome = .ok report) →
          lines = metricLines (allEntries sources timestamp pageSize)) := by
  have hseries := map_series?_metricLines sources timestamp pageSize
  obtain ⟨lines, text, hfirst, hwritten, hshows⟩ :=
    (Emitter.start streams timestamp).shows_out_deliver (allEntries sources timestamp pageSize)
  have hlines : (text.lines.filter fun line ↦ !line.isEmpty) = lines :=
    hshows.lines_eq fun line hline ↦ isOneLine_of_mem_metricLines (hfirst.subset hline)
  refine ⟨text, (written_run sources streams timestamp pageSize).1.trans hwritten, ?_⟩
  rw [hlines]
  refine ⟨fun line hline ↦ ?_, ?_, hfirst, ?_⟩
  · have hmem : Sample.series? line ∈
        (metricLines (allEntries sources timestamp pageSize)).map Sample.series? :=
      List.mem_map_of_mem (hfirst.subset hline)
    rw [hseries] at hmem
    obtain ⟨series, -, hshown⟩ := List.mem_map.mp hmem
    exact ⟨series, hshown.symm⟩
  · refine List.Nodup.sublist (hfirst.sublist.map Sample.series?) ?_
    rw [hseries]
    exact (nodup_series_samples sources timestamp pageSize).map fun _ _ ↦ Option.some.inj
  · rintro ⟨report, hok⟩
    rw [(run_of_ok hok).1] at hwritten
    have htext : text = linesText (metricLines (allEntries sources timestamp pageSize)) :=
      (List.append_cancel_left hwritten).symm
    have hall : text.Shows (metricLines (allEntries sources timestamp pageSize)) := Or.inl htext
    rw [← hlines]
    exact hall.lines_eq fun line hline ↦ isOneLine_of_mem_metricLines hline

end Pass

end SocketMetrics
