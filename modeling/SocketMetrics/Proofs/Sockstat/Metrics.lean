import SocketMetrics.Proofs.Sample
import SocketMetrics.Proofs.Text.Quoted
import SocketMetrics.Sockstat.Metrics
/-!
# What is written about the socket allocation summary

The metrics of the summary are the same for every record; only their values depend on it
(`map_label_metrics`). So the samples of any record are clean and belong to distinct series
(`isClean_of_mem_samples`, `nodup_series_samples`), one for each field that is present
(`length_samples`). The message about a summary that cannot be read shows the content quoted and is
therefore a single line (`lineFeed_not_mem_message`).
-/

set_option autoImplicit false
set_option relaxedAutoImplicit false

namespace SocketMetrics.Sockstat

open Text

/-! ### Samples -/

/-- The name and the tags of a metric. -/
def Metric.label (metric : Metric) : Text × Option Text :=
  (metric.name, metric.tags)

/-- The names and tags of the metrics, in the order of publication. -/
def labels : List (Text × Option Text) :=
  (metrics ⟨0, 0, 0, 0, 0, 0, none, none, 0, 0, 0⟩ 0).map Metric.label

/-- Names and tags do not depend on the record. -/
theorem map_label_metrics (record : Record) (pageSize : UInt64) :
    (metrics record pageSize).map Metric.label = labels := rfl

theorem nodup_labels : labels.Nodup := by
  decide +kernel

/-- Names and tags are words. -/
theorem isWord_of_mem_labels {label : Text × Option Text} (hlabel : label ∈ labels) :
    label.1.IsWord ∧ ∀ tags, label.2 = some tags → tags.IsWord := by
  have hwords : ∀ label ∈ labels, label.1.IsWord ∧ ∀ tags ∈ label.2, tags.IsWord := by
    decide +kernel
  exact hwords label hlabel

variable {timestamp : Int} {record : Record} {pageSize : UInt64} {sample : Sample}

/-- A sample bears the name and the tags of a metric. -/
theorem mem_labels_of_mem_samples (hsample : sample ∈ samples timestamp record pageSize) :
    sample.group = metricGroup ∧ (sample.metric, sample.tags) ∈ labels := by
  obtain ⟨metric, hmetric, hpick⟩ := List.mem_filterMap.mp hsample
  obtain ⟨value, -, rfl⟩ := Option.map_eq_some_iff.mp hpick
  refine ⟨rfl, ?_⟩
  rw [← map_label_metrics record pageSize]
  exact List.mem_map_of_mem hmetric

theorem isClean_of_mem_samples (hsample : sample ∈ samples timestamp record pageSize) :
    sample.IsClean := by
  obtain ⟨hgroup, hlabel⟩ := mem_labels_of_mem_samples hsample
  obtain ⟨hmetric, htags⟩ := isWord_of_mem_labels hlabel
  refine ⟨?_, hmetric, htags⟩
  rw [hgroup]
  decide

/-- The series of a metric. -/
def Metric.series (metric : Metric) : Text × Option Text :=
  Sample.seriesOf metricGroup metric.label

/-- The metrics of a record belong to distinct series. -/
theorem nodup_series_metrics (record : Record) (pageSize : UInt64) :
    ((metrics record pageSize).map Metric.series).Nodup := by
  have hlabels : ((metrics record pageSize).map Metric.label).Nodup := nodup_labels
  have hseries := hlabels.map (Sample.seriesOf_injective metricGroup)
  rwa [List.map_map] at hseries

/-- The sample of a metric belongs to the series of the metric. -/
theorem series_of_value {timestamp : Int} {metric : Metric} {sample : Sample}
    (hsample : (metric.value.map fun value ↦
      (⟨metricGroup, metric.name, timestamp, value, metric.tags⟩ : Sample)) = some sample) :
    sample.series = metric.series := by
  obtain ⟨value, -, rfl⟩ := Option.map_eq_some_iff.mp hsample
  rfl

/-- The samples of a record belong to distinct series. -/
theorem nodup_series_samples (timestamp : Int) (record : Record) (pageSize : UInt64) :
    ((samples timestamp record pageSize).map Sample.series).Nodup :=
  Sample.nodup_series_filterMap (nodup_series_metrics record pageSize) fun _ _ ↦ series_of_value

/-- Every field that is present gives one sample, and two fields may be missing. -/
theorem length_samples (timestamp : Int) (record : Record) (pageSize : UInt64) :
    9 ≤ (samples timestamp record pageSize).length ∧
      (samples timestamp record pageSize).length + record.missing = 11 := by
  cases hpages : record.udpPages <;> cases hinUse : record.udpliteInUse <;>
    simp [samples, metrics, Fields.missing, hpages, hinUse]

/-! ### Messages -/

/-- The message about an unreadable summary is a single line. -/
theorem ReadError.lineFeed_not_mem_message (error : ReadError) : '\n' ∉ error.message := by
  unfold ReadError.message
  cases error with
  | grammar content =>
    simp only [List.mem_append, not_or]
    exact ⟨by simp, lineFeed_not_mem_quote content⟩
  | outOfRange field content =>
    have hfield : '\n' ∉ field.name := by cases field <;> decide
    simp only [List.mem_append, not_or]
    exact ⟨⟨⟨by simp, hfield⟩, by simp⟩, lineFeed_not_mem_quote content⟩

end SocketMetrics.Sockstat
