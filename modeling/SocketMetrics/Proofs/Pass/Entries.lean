import SocketMetrics.Proofs.Channel.Source
import SocketMetrics.Proofs.Netstat.Metrics
import SocketMetrics.Proofs.Pass.Delivery
import SocketMetrics.Proofs.Sockstat.Metrics
/-!
# The entries of a pass

Whatever its sources hold, every entry of a pass is a single line (`isOneLine_of_mem_allEntries`):
metric lines are made of words, and messages show contents quoted. Only the faults of the sources
stand in messages as they are, so that their texts have to be single lines
(`Source.FailsOnOneLine`). The samples of a pass are clean and no two of them belong to the same
series (`isClean_of_mem_samples`, `nodup_series_samples`).
-/

set_option autoImplicit false
set_option relaxedAutoImplicit false

namespace SocketMetrics.Pass

open Channel Netstat

/-! ### Lines of a pass -/

/-- The entries about the summary are single lines. -/
theorem isOneLine_of_mem_sockstatPart {timestamp : Int} {pageSize : UInt64} {source : Source}
    (hsource : source.FailsOnOneLine) {entry : Entry}
    (hentry : entry ∈ (sockstatPart timestamp pageSize (nextContent source)).entries) :
    entry.IsOneLine := by
  unfold sockstatPart at hentry
  split at hentry
  · next fault hfault =>
    cases List.mem_singleton.mp hentry
    have hmessage := hsource.lineFeed_not_mem hfault
    simp [hmessage]
  · split at hentry
    · next error _ =>
      cases List.mem_singleton.mp hentry
      exact error.lineFeed_not_mem_message
    · obtain ⟨sample, hsample, rfl⟩ := List.mem_map.mp hentry
      exact (Sockstat.isClean_of_mem_samples hsample).lineFeed_not_mem_line

/-- The warnings about a table are single lines. -/
theorem isOneLine_of_mem_warnings {warnings : List Warning} {entry : Entry}
    (hentry : entry ∈ warnings.map fun warning ↦ Entry.diagnostic warning.message) :
    entry.IsOneLine := by
  obtain ⟨warning, -, rfl⟩ := List.mem_map.mp hentry
  exact warning.lineFeed_not_mem_message

/-- The entries about the table are single lines. -/
theorem isOneLine_of_mem_netstatPart {timestamp : Int} {source : Source}
    (hsource : source.FailsOnOneLine) {entry : Entry}
    (hentry : entry ∈ (netstatPart timestamp (nextContent source)).entries) :
    entry.IsOneLine := by
  unfold netstatPart at hentry
  split at hentry
  · next fault hfault =>
    cases List.mem_singleton.mp hentry
    have hmessage := hsource.lineFeed_not_mem hfault
    simp [hmessage]
  · simp only at hentry
    split at hentry
    · next error herror =>
      rcases List.mem_append.mp hentry with hwarning | hfailure
      · exact isOneLine_of_mem_warnings hwarning
      · cases List.mem_singleton.mp hfailure
        have hmessage := lineFeed_not_mem_message_of_read herror
        simp [hmessage]
    · rcases List.mem_append.mp hentry with hwarning | hpublished
      · exact isOneLine_of_mem_warnings hwarning
      · exact isOneLine_of_mem_entries hpublished

/-- Every entry of a pass is a single line. -/
theorem isOneLine_of_mem_allEntries {sources : Sources} {timestamp : Int} {pageSize : UInt64}
    (hsockstat : sources.sockstat.FailsOnOneLine) (hnetstat : sources.netstat.FailsOnOneLine) :
    ∀ entry ∈ allEntries sources timestamp pageSize, entry.IsOneLine := by
  intro entry hentry
  rcases List.mem_append.mp hentry with hsummary | htable
  · exact isOneLine_of_mem_sockstatPart hsockstat hsummary
  · exact isOneLine_of_mem_netstatPart hnetstat htable

/-! ### Samples of a pass -/

/-- The samples of a pass. -/
def samples (sources : Sources) (timestamp : Int) (pageSize : UInt64) : List Sample :=
  (allEntries sources timestamp pageSize).filterMap Entry.sample?

/-- The samples about the summary are none, or those of a record. -/
theorem samples_sockstatPart (timestamp : Int) (pageSize : UInt64) (source : Except Fault Text) :
    (sockstatPart timestamp pageSize source).entries.filterMap Entry.sample? = [] ∨
      ∃ record, (sockstatPart timestamp pageSize source).entries.filterMap Entry.sample? =
        Sockstat.samples timestamp record pageSize := by
  unfold sockstatPart
  split
  · exact Or.inl rfl
  · split
    · exact Or.inl rfl
    · next record _ =>
      refine Or.inr ⟨record, ?_⟩
      simp [List.filterMap_map, Function.comp_def, Entry.sample?]

/-- The samples about the table are none, or those of a table that was read. -/
theorem samples_netstatPart (timestamp : Int) (source : Except Fault Text) :
    (netstatPart timestamp source).entries.filterMap Entry.sample? = [] ∨
      ∃ content table, (Table.read content).table = .ok table ∧
        (netstatPart timestamp source).entries.filterMap Entry.sample? =
          table.samples timestamp := by
  unfold netstatPart
  split
  · exact Or.inl rfl
  · next content =>
    simp only
    split
    · left
      simp [List.filterMap_map, Function.comp_def, Entry.sample?]
    · next table htable =>
      refine Or.inr ⟨content, table, htable, ?_⟩
      simp [List.filterMap_map, Function.comp_def, Entry.sample?, Table.samples]

/-- The samples of a pass are those about the summary and those about the table. -/
theorem samples_cases (sources : Sources) (timestamp : Int) (pageSize : UInt64) :
    ∃ summary table, samples sources timestamp pageSize = summary ++ table ∧
      (summary = [] ∨ ∃ record, summary = Sockstat.samples timestamp record pageSize) ∧
      (table = [] ∨ ∃ content counters, (Table.read content).table = .ok counters ∧
        table = counters.samples timestamp) :=
  ⟨_, _, List.filterMap_append .., samples_sockstatPart .., samples_netstatPart ..⟩

theorem isClean_of_mem_samples {sources : Sources} {timestamp : Int} {pageSize : UInt64}
    {sample : Sample} (hsample : sample ∈ samples sources timestamp pageSize) :
    sample.IsClean := by
  obtain ⟨summary, table, hsamples, hsummary, htable⟩ := samples_cases sources timestamp pageSize
  rw [hsamples, List.mem_append] at hsample
  rcases hsample with hmem | hmem
  · rcases hsummary with rfl | ⟨record, rfl⟩
    · cases hmem
    · exact Sockstat.isClean_of_mem_samples hmem
  · rcases htable with rfl | ⟨content, counters, -, rfl⟩
    · cases hmem
    · exact Netstat.isClean_of_mem_samples hmem

/-- No series of the summary is one of a section of the table. -/
theorem series_ne {timestamp : Int} {record : Sockstat.Record} {pageSize : UInt64} {sample : Sample}
    (hsample : sample ∈ Sockstat.samples timestamp record pageSize) (of : Section)
    (label : Text × Option Text) :
    sample.series ≠ Sample.seriesOf (sectionGroup of.name) label := by
  obtain ⟨hgroup, -⟩ := Sockstat.mem_labels_of_mem_samples hsample
  have hsummary : sample.series.1.take 6 = "net.so".toList := by
    rw [Sample.series, Sample.name, hgroup, List.take_append_of_le_length (by decide)]
    decide
  have htable : (Sample.seriesOf (sectionGroup of.name) label).1.take 6 = "net.st".toList := by
    rw [Sample.seriesOf, sectionGroup, List.append_assoc,
      List.take_append_of_le_length (by decide)]
    decide
  intro heq
  rw [heq, htable] at hsummary
  exact absurd hsummary (by decide)

/-- No two samples of a pass belong to the same series. -/
theorem nodup_series_samples (sources : Sources) (timestamp : Int) (pageSize : UInt64) :
    ((samples sources timestamp pageSize).map Sample.series).Nodup := by
  obtain ⟨summary, table, hsamples, hsummary, htable⟩ := samples_cases sources timestamp pageSize
  rw [hsamples, List.map_append, List.nodup_append]
  refine ⟨?_, ?_, ?_⟩
  · rcases hsummary with rfl | ⟨record, rfl⟩
    · simp
    · exact Sockstat.nodup_series_samples timestamp record pageSize
  · rcases htable with rfl | ⟨content, counters, hread, rfl⟩
    · simp
    · exact counters.nodup_series_samples (nodup_map_of hread) timestamp
  · intro series hmem other hmemOther
    obtain ⟨one, hone, rfl⟩ := List.mem_map.mp hmem
    obtain ⟨sample, hsample, rfl⟩ := List.mem_map.mp hmemOther
    rcases hsummary with rfl | ⟨record, rfl⟩
    · cases hone
    rcases htable with rfl | ⟨content, counters, -, rfl⟩
    · cases hsample
    obtain ⟨of, label, hseries⟩ := Table.exists_series_eq hsample
    rw [hseries]
    exact series_ne hone of label

end SocketMetrics.Pass
