import SocketMetrics.Proofs.Channel.Lines
import SocketMetrics.Proofs.Sample
/-!
# The points of a time series

`Sample.pointsOf series text` reads one time series off a text: the time and the value of each of
its lines. Of a text that consists of the lines of clean samples it finds the samples of the series
(`pointsOf_linesText`), which are one or none where no two samples belong to the same series
(`pointsOf_eq_singleton`, `pointsOf_eq_nil`). Where each sample is picked from an item, a series has
the sample that is picked from its item (`pointsOf_filterMap`).
-/

set_option autoImplicit false
set_option relaxedAutoImplicit false

namespace SocketMetrics.Sample

open Channel Number Text

/-- The time and the value that the line of a sample shows. -/
def point (sample : Sample) : Text × Text :=
  (decimalInt sample.timestamp, decimal sample.value.toNat)

/-- The time and the value of a line, if it belongs to the series. -/
def pointOf? (series : Text × Option Text) (line : Text) : Option (Text × Text) :=
  (parts? line).bind fun parts ↦
    if (parts.name, parts.tags) = series then some (parts.timestamp, parts.value) else none

/-- The time and the value of each line that belongs to the series. -/
def pointsOf (series : Text × Option Text) (text : Text) : List (Text × Text) :=
  text.lines.filterMap (pointOf? series)

/-- The line of a clean sample is a point of the series of the sample and of no other. -/
theorem IsClean.pointOf?_line {sample : Sample} (hclean : sample.IsClean)
    (series : Text × Option Text) :
    pointOf? series sample.line = if sample.series = series then some sample.point else none := by
  rw [pointOf?, hclean.parts?_line]
  rfl

section Lines

variable {samples : List Sample} (hclean : ∀ sample ∈ samples, sample.IsClean)

include hclean

/-- The points of a series are those of its samples. -/
theorem pointsOf_linesText (series : Text × Option Text) :
    pointsOf series (linesText (samples.map line)) =
      (samples.filter fun sample ↦ sample.series = series).map point := by
  have hone : ∀ text ∈ samples.map line, '\n' ∉ text := by
    intro text htext
    obtain ⟨sample, hsample, rfl⟩ := List.mem_map.mp htext
    exact (hclean sample hsample).lineFeed_not_mem_line
  have hlines : (linesText (samples.map line)).lines = samples.map line ++ [[]] := by
    rw [← List.append_nil (linesText _)]
    exact lines_linesText_append hone List.not_mem_nil
  have hlast : [[]].filterMap (pointOf? series) = [] := rfl
  have hpoints : samples.filterMap (pointOf? series ∘ line) =
      samples.filterMap fun sample ↦ if sample.series = series then some sample.point else none :=
    List.filterMap_congr fun sample hsample ↦ (hclean sample hsample).pointOf?_line series
  rw [pointsOf, hlines, List.filterMap_append, hlast, List.append_nil, List.filterMap_map, hpoints,
    ← List.filterMap_eq_map, List.filterMap_filter]
  simp

/-- A series with no sample has no point. -/
theorem pointsOf_eq_nil {series : Text × Option Text}
    (hnone : ∀ sample ∈ samples, sample.series ≠ series) :
    pointsOf series (linesText (samples.map line)) = [] := by
  rw [pointsOf_linesText hclean, List.map_eq_nil_iff, List.filter_eq_nil_iff]
  simpa using hnone

/-- A sample is the only point of its series where no two samples share a series. -/
theorem pointsOf_eq_singleton (hnodup : (samples.map series).Nodup) {sample : Sample}
    (hsample : sample ∈ samples) :
    pointsOf sample.series (linesText (samples.map line)) = [sample.point] := by
  have hsamples : samples.Nodup := hnodup.of_map
  have honly : samples.filter (fun other ↦ other.series = sample.series) =
      samples.filter (· == sample) := by
    refine List.filter_congr fun other hother ↦ ?_
    rw [Bool.eq_iff_iff, decide_eq_true_eq, beq_iff_eq]
    exact ⟨List.inj_on_of_nodup_map hnodup hother hsample, congrArg series⟩
  rw [pointsOf_linesText hclean, honly, List.filter_beq, hsamples.count, if_pos hsample]
  rfl

end Lines

/-- Samples of other series have no part in the points of a series. -/
theorem pointsOf_append_of_ne {first second : List Sample}
    (hclean : ∀ sample ∈ first ++ second, sample.IsClean) {series : Text × Option Text}
    (hother : ∀ sample ∈ first, sample.series ≠ series) :
    pointsOf series (linesText ((first ++ second).map line)) =
      pointsOf series (linesText (second.map line)) := by
  have hsecond : ∀ sample ∈ second, sample.IsClean :=
    fun sample hsample ↦ hclean sample (List.mem_append_right _ hsample)
  have hnone : first.filter (fun sample ↦ sample.series = series) = [] :=
    List.filter_eq_nil_iff.mpr (by simpa using hother)
  rw [pointsOf_linesText hclean, pointsOf_linesText hsecond, List.filter_append, hnone,
    List.nil_append]

/-- Where samples are picked from items with distinct series, a series has the point of the sample
that is picked from its item, if there is one. -/
theorem pointsOf_filterMap {α : Type} {seriesAt : α → Text × Option Text}
    {pick : α → Option Sample} {items : List α}
    (hclean : ∀ sample ∈ items.filterMap pick, sample.IsClean)
    (hitems : (items.map seriesAt).Nodup)
    (hpick : ∀ item sample, pick item = some sample → sample.series = seriesAt item)
    {item : α} (hitem : item ∈ items) :
    pointsOf (seriesAt item) (linesText ((items.filterMap pick).map line)) =
      (pick item).toList.map point := by
  cases hsome : pick item with
  | some sample =>
    have hmem : sample ∈ items.filterMap pick := List.mem_filterMap.mpr ⟨item, hitem, hsome⟩
    rw [← hpick item sample hsome]
    exact pointsOf_eq_singleton hclean (nodup_series_filterMap hitems hpick) hmem
  | none =>
    refine pointsOf_eq_nil hclean fun sample hsample heq ↦ ?_
    obtain ⟨other, hother, hsample⟩ := List.mem_filterMap.mp hsample
    rw [hpick other sample hsample] at heq
    obtain rfl := List.inj_on_of_nodup_map hitems hother hitem heq
    rw [hsome] at hsample
    cases hsample

end SocketMetrics.Sample
