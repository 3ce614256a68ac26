import Mathlib.Data.List.ProdSigma
import SocketMetrics.Netstat.Metrics
import SocketMetrics.Proofs.Channel.Delivery
import SocketMetrics.Proofs.Netstat.Diagnosis
import SocketMetrics.Proofs.Sample
import SocketMetrics.Proofs.Text.Quoted
/-!
# What is written about the protocol counter table

Each published counter of a section becomes one clean sample or one message (`entry?_cases`), and
every message about a table is a single line whatever the content holds (`isOneLine_of_mem_entries`,
`Warning.lineFeed_not_mem_message`, `lineFeed_not_mem_message_of_read`). No two samples of a table
that was read belong to the same series (`Table.nodup_series_samples`): within a section the
published counters have distinct labels, the name of the section can be read off the name of the
metric, and a table that was read has every section once (`nodup_map_of`).
-/

set_option autoImplicit false
set_option relaxedAutoImplicit false

namespace SocketMetrics.Netstat

open Channel Number Text

/-! ### The table of published counters -/

/-- The name and the tags of the metric of a counter. -/
def Counter.label (counter : Counter) : Text × Option Text :=
  (counter.metric, counter.tags)

/-- No two counters are published under the same name and tags. -/
theorem nodup_label_counters : (counters.map Counter.label).Nodup := by
  decide +kernel

/-- The texts of a published counter are words. -/
theorem isWord_of_mem_counters {counter : Counter} (hcounter : counter ∈ counters) :
    counter.counter.IsWord ∧ counter.metric.IsWord ∧
      ∀ tags, counter.tags = some tags → tags.IsWord := by
  have hwords : ∀ counter ∈ counters, counter.counter.IsWord ∧ counter.metric.IsWord ∧
      ∀ tags ∈ counter.tags, tags.IsWord := by
    decide +kernel
  exact hwords counter hcounter

/-- The group of a section is a word. -/
theorem isWord_sectionGroup (of : Section) : (sectionGroup of.name).IsWord := by
  cases of <;> decide +kernel

/-- The name of a section has no dot. -/
theorem dot_not_mem_name (of : Section) : '.' ∉ of.name := by
  cases of <;> decide

theorem name_injective : Function.Injective Section.name := by
  intro first second heq
  cases first <;> cases second <;> first | rfl | exact absurd heq (by decide)

/-- The section of a series can be read off the name of its metric. -/
theorem section_eq_of_seriesOf_eq {first second : Section} {one other : Text × Option Text}
    (heq : Sample.seriesOf (sectionGroup first.name) one =
      Sample.seriesOf (sectionGroup second.name) other) : first = second := by
  have hnames : first.name ++ '.' :: one.1 = second.name ++ '.' :: other.1 := by
    simpa [Sample.seriesOf, sectionGroup] using congrArg Prod.fst heq
  have hcut := congrArg (fun name ↦ (cutAt '.' name).1) hnames
  simp only [cutAt_append (dot_not_mem_name _)] at hcut
  exact name_injective hcut

/-! ### Messages -/

/-- The message about a line that was passed over is a single line. -/
theorem Warning.lineFeed_not_mem_message (warning : Warning) : '\n' ∉ warning.message := by
  unfold Warning.message
  simp [lineFeed_not_mem_quote, lineFeed_not_mem_quoteList]

/-- The message about an unreadable table or value is a single line unless the name of the counter
breaks it. -/
theorem TableError.lineFeed_not_mem_message {error : TableError}
    (hcounter : ∀ of counter value, error = .invalidValue of counter value → '\n' ∉ counter) :
    '\n' ∉ error.message := by
  have hdecimal (n : Nat) : '\n' ∉ Number.decimal n := (isWord_decimal n).not_mem (by decide)
  unfold TableError.message
  cases error with
  | lineCount of lines content => simp [hdecimal, lineFeed_not_mem_quote]
  | columnMismatch of names values content => simp [hdecimal, lineFeed_not_mem_quote]
  | invalidValue of counter value => simp [hcounter of counter value rfl, lineFeed_not_mem_quote]

/-- Whatever the content holds, the message about a table that could not be read is a single
line. -/
theorem lineFeed_not_mem_message_of_read {content : Text} {error : TableError}
    (herror : (Table.read content).table = .error error) : '\n' ∉ error.message := by
  refine TableError.lineFeed_not_mem_message fun of counter value hvalue ↦ ?_
  rw [hvalue] at herror
  rcases Table.counter_of_read_eq_error herror with rfl | rfl
  · decide
  · decide

/-! ### Entries -/

/-- A published counter becomes a sample, or a message about a value that is no number. -/
theorem Counters.entry?_cases {counters : Counters} {timestamp : Int} {counter : Counter}
    {entry : Entry} (hentry : counters.entry? timestamp counter = some entry) :
    (∃ value, entry = .metric
        ⟨sectionGroup counters.of.name, counter.metric, timestamp, value, counter.tags⟩) ∨
      ∃ raw, entry =
        .diagnostic (TableError.invalidValue counters.of counter.counter raw).message := by
  unfold Counters.entry? at hentry
  split at hentry
  · cases hentry
  · next value _ =>
    exact Or.inl ⟨value, (Option.some.inj hentry).symm⟩
  · next fault hfault =>
    obtain ⟨raw, -, -, rfl⟩ := Counters.value?_eq_error_iff.mp hfault
    exact Or.inr ⟨raw, (Option.some.inj hentry).symm⟩

/-- A counter that the section has not is not written. -/
theorem Counters.entry?_of_missing {counters : Counters} {counter : Counter}
    (hraw : counters.raw? counter.counter = none) (timestamp : Int) :
    counters.entry? timestamp counter = none := by
  rw [Counters.entry?, Counters.value?_eq_ok_none_iff.mpr hraw]

/-- A counter with a number becomes the sample of that number. -/
theorem Counters.entry?_of_isCount {counters : Counters} {counter : Counter} {raw : Text}
    {value : UInt64} (hraw : counters.raw? counter.counter = some raw)
    (hcount : IsCount raw value.toNat) (timestamp : Int) :
    counters.entry? timestamp counter = some (.metric
      ⟨sectionGroup counters.of.name, counter.metric, timestamp, value, counter.tags⟩) := by
  rw [Counters.entry?, Counters.value?_eq_ok_some_iff.mpr ⟨raw, hraw, hcount⟩]

/-- A counter whose value is no number becomes a message. -/
theorem Counters.entry?_of_not_isCount {counters : Counters} {counter : Counter} {raw : Text}
    (hraw : counters.raw? counter.counter = some raw) (hcount : ∀ n, ¬ IsCount raw n)
    (timestamp : Int) :
    counters.entry? timestamp counter =
      some (.diagnostic (TableError.invalidValue counters.of counter.counter raw).message) := by
  rw [Counters.entry?, Counters.value?_eq_error_iff.mpr ⟨raw, hraw, hcount, rfl⟩]

/-- What is written for a counter depends on the section and the value alone. -/
theorem Counters.entry?_congr {one other : Counters} {counter : Counter} (hof : one.of = other.of)
    (hraw : one.raw? counter.counter = other.raw? counter.counter) (timestamp : Int) :
    one.entry? timestamp counter = other.entry? timestamp counter := by
  simp only [Counters.entry?, Counters.value?, hof, hraw]

/-- The entries of a table stand for the published counters of its sections. -/
theorem Table.mem_entries_iff {table : Table} {timestamp : Int} {entry : Entry} :
    entry ∈ table.entries timestamp ↔ ∃ counters ∈ table, ∃ counter ∈ Netstat.counters,
      counters.entry? timestamp counter = some entry := by
  simp only [Table.entries, Counters.entriesAt, List.mem_flatMap, List.mem_filterMap]

theorem isClean_of_mem_entries {table : Table} {timestamp : Int} {sample : Sample}
    (hsample : .metric sample ∈ table.entries timestamp) : sample.IsClean := by
  obtain ⟨counters, -, counter, hcounter, hentry⟩ := Table.mem_entries_iff.mp hsample
  obtain ⟨-, hmetric, htags⟩ := isWord_of_mem_counters hcounter
  rcases Counters.entry?_cases hentry with ⟨value, heq⟩ | ⟨raw, heq⟩
  · cases heq
    exact ⟨isWord_sectionGroup counters.of, hmetric, htags⟩
  · cases heq

/-- Every entry of a table is a single line. -/
theorem isOneLine_of_mem_entries {table : Table} {timestamp : Int} {entry : Entry}
    (hentry : entry ∈ table.entries timestamp) : entry.IsOneLine := by
  cases entry with
  | metric sample => exact (isClean_of_mem_entries hentry).lineFeed_not_mem_line
  | diagnostic message =>
    obtain ⟨counters, -, counter, hcounter, hsome⟩ := Table.mem_entries_iff.mp hentry
    rcases Counters.entry?_cases hsome with ⟨value, heq⟩ | ⟨raw, heq⟩
    · cases heq
    · cases heq
      have hname : '\n' ∉ counter.counter :=
        (isWord_of_mem_counters hcounter).1.not_mem (by decide)
      rw [Entry.isOneLine_diagnostic]
      apply TableError.lineFeed_not_mem_message
      rintro of name value ⟨⟩
      exact hname

/-! ### Series -/

/-- The samples of a table. -/
def Table.samples (table : Table) (timestamp : Int) : List Sample :=
  (table.entries timestamp).filterMap Entry.sample?

/-- The sample that a published counter of a section becomes. -/
def Counters.sample? (counters : Counters) (timestamp : Int) (counter : Counter) :
    Option Sample :=
  (counters.entry? timestamp counter).bind Entry.sample?

/-- A table is written section by section, and each section counter by counter. -/
theorem Table.entries_eq_filterMap (table : Table) (timestamp : Int) :
    table.entries timestamp = (table ×ˢ Netstat.counters).filterMap fun cell ↦
      Counters.entry? cell.1 timestamp cell.2 := by
  simp [Table.entries, Counters.entriesAt, SProd.sprod, List.product, List.filterMap_flatMap,
    List.filterMap_map]

theorem Table.samples_eq_filterMap (table : Table) (timestamp : Int) :
    table.samples timestamp = (table ×ˢ Netstat.counters).filterMap fun cell ↦
      cell.1.sample? timestamp cell.2 := by
  rw [Table.samples, Table.entries_eq_filterMap, List.filterMap_filterMap]
  rfl

/-- The series of a published counter of a section. -/
def cellSeries (cell : Counters × Counter) : Text × Option Text :=
  Sample.seriesOf (sectionGroup cell.1.of.name) cell.2.label

/-- A counter is published in the group of its section and under its own name and tags. -/
theorem Counters.series_of_sample? {counters : Counters} {timestamp : Int} {counter : Counter}
    {sample : Sample} (hsample : counters.sample? timestamp counter = some sample) :
    sample.series = cellSeries (counters, counter) := by
  obtain ⟨entry, hentry, hmetric⟩ := Option.bind_eq_some_iff.mp hsample
  rcases Counters.entry?_cases hentry with ⟨value, rfl⟩ | ⟨raw, rfl⟩
  · cases hmetric
    rfl
  · cases hmetric

/-- The samples of a table are clean. -/
theorem isClean_of_mem_samples {table : Table} {timestamp : Int} {sample : Sample}
    (hsample : sample ∈ table.samples timestamp) : sample.IsClean := by
  obtain ⟨entry, hentry, hmetric⟩ := List.mem_filterMap.mp hsample
  cases entry with
  | metric found =>
    cases hmetric
    exact isClean_of_mem_entries hentry
  | diagnostic message => cases hmetric

/-- A sample of a table belongs to a series of the group of one of its sections. -/
theorem Table.exists_series_eq {table : Table} {timestamp : Int} {sample : Sample}
    (hsample : sample ∈ table.samples timestamp) :
    ∃ of : Section, ∃ label, sample.series = Sample.seriesOf (sectionGroup of.name) label := by
  rw [Table.samples_eq_filterMap] at hsample
  obtain ⟨cell, -, hcell⟩ := List.mem_filterMap.mp hsample
  exact ⟨cell.1.of, cell.2.label, Counters.series_of_sample? hcell⟩

/-- Where every section stands once, the published counters of a table have distinct series. -/
theorem nodup_cellSeries {table : Table} (hsections : (table.map Counters.of).Nodup) :
    ((table ×ˢ Netstat.counters).map cellSeries).Nodup := by
  refine List.Nodup.map_on ?_ (hsections.of_map.product nodup_label_counters.of_map)
  rintro ⟨first, one⟩ hfirst ⟨second, other⟩ hsecond heq
  obtain ⟨hfirst, hone⟩ := List.mem_product.mp hfirst
  obtain ⟨hsecond, hother⟩ := List.mem_product.mp hsecond
  have hof : first.of = second.of := section_eq_of_seriesOf_eq heq
  have hsame : first = second := List.inj_on_of_nodup_map hsections hfirst hsecond hof
  rw [cellSeries, cellSeries, hof] at heq
  have hlabel := Sample.seriesOf_injective _ heq
  rw [hsame, List.inj_on_of_nodup_map nodup_label_counters hone hother hlabel]

/-- The samples of a table in which every section stands once belong to distinct series. -/
theorem Table.nodup_series_samples {table : Table} (hsections : (table.map Counters.of).Nodup)
    (timestamp : Int) : ((table.samples timestamp).map Sample.series).Nodup := by
  rw [Table.samples_eq_filterMap]
  exact Sample.nodup_series_filterMap (nodup_cellSeries hsections)
    fun _ _ ↦ Counters.series_of_sample?

end SocketMetrics.Netstat
