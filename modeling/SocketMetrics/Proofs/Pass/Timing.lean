import SocketMetrics.Proofs.Pass.Series
/-!
# The same pass at another time

The time of a pass goes into its metric lines and nowhere else: the entries of a pass at another
time are the same entries with that time (`allEntries_at`). `Sample.untimed` leaves out the second
field of a metric line, and texts are `SameButTimes` when their lines agree without it. Passes over
sources that show the same texts have the same messages, and the same metric lines but for the times
(`entries_sameButTimes`).
-/

set_option autoImplicit false
set_option relaxedAutoImplicit false

namespace SocketMetrics

open Channel Number Text

/-! ### Lines without their times -/

/-- The fields of a metric line but the second, which is the time. -/
def Sample.untimed (line : Text) : List Text :=
  (line.pieces (· == ' ')).eraseIdx 1

example : Sample.untimed "net.sockstat.memory 7 4096 type=tcp".toList =
    Sample.untimed "net.sockstat.memory 1700000030 4096 type=tcp".toList := by
  decide

/-- The texts have the same lines but for the times in them. -/
def SameButTimes (one other : Text) : Prop :=
  one.lines.map Sample.untimed = other.lines.map Sample.untimed

/-- Single lines that agree but for their times make up texts that do. -/
theorem sameButTimes_linesText {lines others : List Text} (hlines : ∀ line ∈ lines, '\n' ∉ line)
    (hothers : ∀ line ∈ others, '\n' ∉ line)
    (huntimed : lines.map Sample.untimed = others.map Sample.untimed) :
    SameButTimes (linesText lines) (linesText others) := by
  have hlast : '\n' ∉ ([] : Text) := List.not_mem_nil
  have hone := lines_linesText_append hlines hlast
  have hother := lines_linesText_append hothers hlast
  rw [List.append_nil] at hone hother
  rw [SameButTimes, hone, hother, List.map_append, List.map_append, huntimed]

/-! ### Other times -/

/-- The sample with another time. -/
def Sample.at (timestamp : Int) (sample : Sample) : Sample :=
  { sample with timestamp }

/-- The time of a sample with a clean name stands in the second field of its line only. -/
theorem Sample.untimed_line_at {sample : Sample} (hname : ' ' ∉ sample.name) (timestamp : Int) :
    untimed (sample.at timestamp).line = untimed sample.line := by
  have hpieces (time : Int) (rest : Text) :
      (sample.name ++ ' ' :: (decimalInt time ++ ' ' :: rest)).pieces (· == ' ') =
        sample.name :: decimalInt time :: rest.pieces (· == ' ') := by
    have htime : ' ' ∉ decimalInt time := (isWord_decimalInt _).not_mem (by decide)
    rw [pieces_append_of_not_mem hname, pieces_append_of_not_mem htime]
  have hat : (sample.at timestamp).line = sample.name ++ ' ' :: (decimalInt timestamp ++ ' ' ::
      (decimal sample.value.toNat ++ (sample.shownTags.map (' ' :: ·)).getD [])) :=
    (sample.at timestamp).line_eq
  rw [untimed, untimed, hat, sample.line_eq, hpieces, hpieces]
  rfl

namespace Channel

/-- The entry with another time, if it bears one. -/
def Entry.at (timestamp : Int) : Entry → Entry
  | .metric sample => .metric (sample.at timestamp)
  | .diagnostic message => .diagnostic message

theorem messageLines_map_at (timestamp : Int) (entries : List Entry) :
    messageLines (entries.map (Entry.at timestamp)) = messageLines entries := by
  unfold messageLines
  rw [List.filterMap_map]
  congr 1
  funext entry
  cases entry <;> rfl

/-- Entries whose samples are clean have the same metric lines at another time, but for the time. -/
theorem untimed_metricLines_map_at {entries : List Entry}
    (hclean : ∀ sample, .metric sample ∈ entries → sample.IsClean) (timestamp : Int) :
    (metricLines (entries.map (Entry.at timestamp))).map Sample.untimed =
      (metricLines entries).map Sample.untimed := by
  induction entries with
  | nil => rfl
  | cons entry others ih =>
    have hothers := ih fun sample hsample ↦ hclean sample (List.mem_cons_of_mem _ hsample)
    cases entry with
    | diagnostic message => exact hothers
    | metric sample =>
      have hname : ' ' ∉ sample.name :=
        (hclean sample List.mem_cons_self).name.not_mem (by decide)
      exact congrArg₂ List.cons (Sample.untimed_line_at hname timestamp) hothers

end Channel

theorem Sockstat.samples_at (timestamp later : Int) (record : Record) (pageSize : UInt64) :
    samples later record pageSize = (samples timestamp record pageSize).map (Sample.at later) := by
  unfold samples
  rw [List.map_filterMap]
  congr 1
  funext metric
  rw [Option.map_map]
  rfl

theorem Netstat.Table.entries_at (timestamp later : Int) (table : Table) :
    table.entries later = (table.entries timestamp).map (Entry.at later) := by
  unfold Table.entries Counters.entriesAt
  rw [List.map_flatMap]
  congr 1
  funext counters
  rw [List.map_filterMap]
  congr 1
  funext counter
  unfold Counters.entry?
  split <;> rfl

namespace Pass

theorem sockstatPart_at (timestamp later : Int) (pageSize : UInt64) (source : Except Fault Text) :
    (sockstatPart later pageSize source).entries =
      (sockstatPart timestamp pageSize source).entries.map (Entry.at later) := by
  unfold sockstatPart
  split
  · rfl
  · split
    · rfl
    · simp only
      rw [Sockstat.samples_at timestamp, List.map_map, List.map_map]
      rfl

theorem netstatPart_at (timestamp later : Int) (source : Except Fault Text) :
    (netstatPart later source).entries =
      (netstatPart timestamp source).entries.map (Entry.at later) := by
  unfold netstatPart
  split
  · rfl
  · simp only
    split
    · simp [Function.comp_def, Entry.at]
    · simp [Function.comp_def, Entry.at, Netstat.Table.entries_at timestamp later]

/-- A pass at another time has the same entries, but for the time. -/
theorem allEntries_at (sources : Sources) (timestamp later : Int) (pageSize : UInt64) :
    allEntries sources later pageSize =
      (allEntries sources timestamp pageSize).map (Entry.at later) := by
  unfold allEntries
  rw [sockstatPart_at timestamp, netstatPart_at timestamp, List.map_append]

/-- Passes over the same sources have the same messages at all times, and the same metric lines but
for the time. -/
theorem entries_sameButTimes (sources : Sources) (timestamp later : Int) (pageSize : UInt64) :
    (metricLines (allEntries sources later pageSize)).map Sample.untimed =
        (metricLines (allEntries sources timestamp pageSize)).map Sample.untimed ∧
      messageLines (allEntries sources later pageSize) =
        messageLines (allEntries sources timestamp pageSize) := by
  rw [allEntries_at sources timestamp later]
  refine ⟨untimed_metricLines_map_at (fun sample hsample ↦ ?_) later,
    messageLines_map_at later _⟩
  have hmem : sample ∈ samples sources timestamp pageSize :=
    List.mem_filterMap.mpr ⟨_, hsample, rfl⟩
  exact isClean_of_mem_samples hmem

end Pass

end SocketMetrics
