import SocketMetrics.Proofs.Netstat.Diagnosis
import SocketMetrics.Proofs.Pass.Delivery
import SocketMetrics.Proofs.Sockstat.Metrics
/-!
# Each source speaks for itself

Over streams that never fail a pass succeeds, whatever its sources do, and each stream ends with
what the summary contributes followed by what the table contributes. `summaryContribution` is a
function of the first source and `tableContribution` of the second, so neither source can add to,
remove from or change what is written about the other (`run_of_neverFail`).

What a source contributes is all or nothing. `SummaryAllOrNothing` says that the summary is either
published as a whole, nine to eleven lines and no message, or replaced by exactly one message.
`TableAllOrNothing` says that no line of a table is published that could not be read: what is
written instead are the warnings about the lines that were gone through and one message behind
them, or the one message that the source could not be read at all.
-/

set_option autoImplicit false
set_option relaxedAutoImplicit false

namespace SocketMetrics.Pass

open Channel Netstat

/-! ### What a source contributes -/

/-- What is written on behalf of one source, and whether the source was understood. -/
structure Contribution where
  out : Text
  err : Text
  ok : Bool

/-- What the entries of a part become when nothing fails. -/
def Part.contribution (part : Part) : Contribution where
  out := linesText (metricLines part.entries)
  err := linesText (messageLines part.entries)
  ok := part.ok

/-- What a pass writes on behalf of the summary. -/
def summaryContribution (timestamp : Int) (pageSize : UInt64) (sockstat : Source) : Contribution :=
  (sockstatPart timestamp pageSize (nextContent sockstat)).contribution

/-- What a pass writes on behalf of the table. -/
def tableContribution (timestamp : Int) (netstat : Source) : Contribution :=
  (netstatPart timestamp (nextContent netstat)).contribution

/-- A summary is published with all of its lines, or one message says why it is not. -/
structure SummaryAllOrNothing (timestamp : Int) (pageSize : UInt64) (source : Except Fault Text)
    (written : Contribution) : Prop where
  of_failed : written.ok = false → written.out = [] ∧
    ∃ message, written.err = linesText [message] ∧
      ((∃ fault, source = .error fault ∧
          message = "Failed to read sockstat: ".toList ++ fault.message) ∨
        ∃ content error, source = .ok content ∧ Sockstat.read content = .error error ∧
          message = error.message)
  of_ok : written.ok = true → written.err = [] ∧
    ∃ content record, source = .ok content ∧ Sockstat.read content = .ok record ∧
      written.out = linesText ((Sockstat.samples timestamp record pageSize).map Sample.line) ∧
      9 ≤ (Sockstat.samples timestamp record pageSize).length ∧
      (Sockstat.samples timestamp record pageSize).length + record.missing = 11

/-- No line of a table is published unless the whole table was read. -/
structure TableAllOrNothing (timestamp : Int) (source : Except Fault Text)
    (written : Contribution) : Prop where
  of_failed : written.ok = false → written.out = [] ∧
    ((∃ fault, source = .error fault ∧
        written.err = linesText ["Failed to read netstat: ".toList ++ fault.message]) ∨
      ∃ content error seen, source = .ok content ∧
        (Table.read content).table = .error error ∧ FailsBehind content seen error ∧
        written.err = linesText ((warningsOf content seen).map Warning.message ++
          ["Aborting netstat for this pass: ".toList ++ error.message]))
  of_ok : written.ok = true → ∃ content table, source = .ok content ∧
    (Table.read content).table = .ok table ∧
    written.out = linesText (metricLines (table.entries timestamp)) ∧
    written.err = linesText ((warningsOf content content.lines).map Warning.message ++
      messageLines (table.entries timestamp))

/-- A message in place of a part is its only line. -/
theorem contribution_failure (message : Text) :
    (Part.failure message).contribution = ⟨[], linesText [message], false⟩ := rfl

theorem summaryAllOrNothing (timestamp : Int) (pageSize : UInt64) (source : Except Fault Text) :
    SummaryAllOrNothing timestamp pageSize source
      (sockstatPart timestamp pageSize source).contribution := by
  cases source with
  | error fault =>
    rw [sockstatPart, contribution_failure]
    refine ⟨fun _ ↦ ⟨rfl, _, rfl, Or.inl ⟨fault, rfl, rfl⟩⟩, fun hok ↦ ?_⟩
    cases hok
  | ok content =>
    rw [sockstatPart]
    cases hread : Sockstat.read content with
    | error error =>
      rw [contribution_failure]
      refine ⟨fun _ ↦ ⟨rfl, _, rfl, Or.inr ⟨content, error, rfl, hread, rfl⟩⟩, fun hok ↦ ?_⟩
      cases hok
    | ok record =>
      refine ⟨fun hfailed ↦ ?_, fun _ ↦ ⟨?_, content, record, rfl, hread, ?_, ?_⟩⟩
      · cases hfailed
      · simp [Part.contribution]
      · simp [Part.contribution]
      · exact Sockstat.length_samples timestamp record pageSize

theorem tableAllOrNothing (timestamp : Int) (source : Except Fault Text) :
    TableAllOrNothing timestamp source (netstatPart timestamp source).contribution := by
  cases source with
  | error fault =>
    rw [netstatPart, contribution_failure]
    refine ⟨fun _ ↦ ⟨rfl, Or.inl ⟨fault, rfl, rfl⟩⟩, fun hok ↦ ?_⟩
    cases hok
  | ok content =>
    rw [netstatPart]
    cases hread : (Table.read content).table with
    | error error =>
      obtain ⟨seen, hbehind, hseen⟩ := Table.read_of_error hread
      refine ⟨fun _ ↦ ⟨?_, Or.inr ⟨content, error, seen, rfl, hread, hbehind, ?_⟩⟩, fun hok ↦ ?_⟩
      · simp [Part.contribution]
      · simp [Part.contribution, hseen]
      · cases hok
    | ok table =>
      refine ⟨fun hfailed ↦ ?_, fun _ ↦ ⟨content, table, rfl, hread, ?_, ?_⟩⟩
      · cases hfailed
      · simp [Part.contribution]
      · simp [Part.contribution, Table.read_of_ok hread]

/-! ### Two sources beside each other -/

/-- Whatever its sources do, a pass over streams that never fail succeeds. It writes what the
summary contributes and then what the table contributes, on each stream; what either of them
contributes depends on its own source alone, and is all or nothing. -/
theorem run_of_neverFail (sources : Sources) (streams : Streams) (timestamp : Int)
    (pageSize : UInt64) (hstreams : streams.NeverFail) :
    (∃ report, (run sources streams timestamp pageSize).outcome = .ok report ∧
        report.sockstatOk = (summaryContribution timestamp pageSize sources.sockstat).ok ∧
        report.netstatOk = (tableContribution timestamp sources.netstat).ok) ∧
      (run sources streams timestamp pageSize).streams.out.written =
        streams.out.written ++ ((summaryContribution timestamp pageSize sources.sockstat).out ++
          (tableContribution timestamp sources.netstat).out) ∧
      (run sources streams timestamp pageSize).streams.err.written =
        streams.err.written ++ ((summaryContribution timestamp pageSize sources.sockstat).err ++
          (tableContribution timestamp sources.netstat).err) ∧
      SummaryAllOrNothing timestamp pageSize (nextContent sources.sockstat)
        (summaryContribution timestamp pageSize sources.sockstat) ∧
      TableAllOrNothing timestamp (nextContent sources.netstat)
        (tableContribution timestamp sources.netstat) := by
  rw [run_eq_of_neverFail sources timestamp pageSize hstreams]
  refine ⟨⟨_, rfl, rfl, rfl⟩, ?_, ?_, summaryAllOrNothing _ _ _, tableAllOrNothing _ _⟩
  · change streams.out.written ++ linesText (metricLines (allEntries sources timestamp pageSize)) = _
    rw [allEntries, metricLines_append, linesText_append]
    rfl
  · change streams.err.written ++ linesText (messageLines (allEntries sources timestamp pageSize)) = _
    rw [allEntries, messageLines_append, linesText_append]
    rfl

/-- A table with a line that is not known is published beside a summary that cannot be read. -/
theorem run_beside_unreadable_summary :
    let sources : Sources := ⟨.constant .directory,
      .constant (.ofBytes (Text.toUtf8 "Tcp: OutRsts\nMystery: 1\nTcp: 5\n".toList))⟩
    let pass := run sources .unbounded 7 4096
    Streams.unbounded.NeverFail ∧
      pass.streams.out.written = "net.stat.tcp.resets 7 5 direction=out\n".toList ∧
      pass.streams.err.written.lineFeeds = 2 := by
  intro sources pass
  have hstreams : Streams.unbounded.NeverFail := ⟨⟨rfl, rfl⟩, ⟨rfl, rfl⟩⟩
  obtain ⟨-, hout, herr, -, -⟩ := run_of_neverFail sources .unbounded 7 4096 hstreams
  refine ⟨hstreams, ?_, ?_⟩
  · rw [hout]
    decide +kernel
  · rw [herr]
    decide +kernel

end SocketMetrics.Pass
