import Mathlib.Data.List.Nodup
import SocketMetrics.Proofs.Text.Word
import SocketMetrics.Sample
/-!
# Taking metric lines apart

`Sample.parts?` cuts a line at its first three spaces. The line of a sample whose name has no space
falls into the name, the time, the value and the tags that it was written from (`parts?_line`), and
`Sample.series?` keeps what tells its time series from others, the name and the tags. A sample
`IsClean` when its group, its metric and its tags are words; the line of a clean sample is a single
line (`lineFeed_not_mem_line`), and its series can be read off it (`series?_line`).
-/

set_option autoImplicit false
set_option relaxedAutoImplicit false

namespace SocketMetrics.Sample

open Number Text

/-- The fields of a metric line as they are written. -/
structure Parts where
  name : Text
  timestamp : Text
  value : Text
  tags : Option Text
deriving DecidableEq, Repr

/-- Cuts a line at its first three spaces, the third of which may be missing. -/
def parts? (line : Text) : Option Parts := do
  let (name, behindName) := line.cutAt ' '
  let (timestamp, behindTimestamp) := (← behindName).cutAt ' '
  let (value, tags) := (← behindTimestamp).cutAt ' '
  return ⟨name, timestamp, value, tags⟩

/-- The time series that a line belongs to: the name of the metric and the tags. -/
def series? (line : Text) : Option (Text × Option Text) :=
  (parts? line).map fun parts ↦ (parts.name, parts.tags)

/-- The time series of a sample. -/
def series (sample : Sample) : Text × Option Text :=
  (sample.name, sample.tags)

/-- The tags as a line shows them: empty tags are not shown. -/
def shownTags (sample : Sample) : Option Text :=
  sample.tags.filter fun tags ↦ !tags.isEmpty

/-- The line of a sample, field by field. -/
theorem line_eq (sample : Sample) :
    sample.line = sample.name ++ ' ' :: (decimalInt sample.timestamp ++ ' ' ::
      (decimal sample.value.toNat ++ (sample.shownTags.map (' ' :: ·)).getD [])) := by
  rcases htags : sample.tags with - | ⟨- | ⟨c, tags⟩⟩ <;>
    simp [line, shownTags, htags, Option.filter]

/-- The line of a sample falls into the fields that it was written from. -/
theorem parts?_line {sample : Sample} (hname : ' ' ∉ sample.name) :
    parts? sample.line = some ⟨sample.name, decimalInt sample.timestamp,
      decimal sample.value.toNat, sample.shownTags⟩ := by
  have htimestamp : ' ' ∉ decimalInt sample.timestamp := (isWord_decimalInt _).not_mem (by decide)
  have hvalue : ' ' ∉ decimal sample.value.toNat := (isWord_decimal _).not_mem (by decide)
  rw [line_eq]
  unfold parts?
  simp only [cutAt_append hname, cutAt_append htimestamp, Option.bind_eq_bind, Option.bind_some]
  cases sample.shownTags with
  | none => simp [cutAt_of_not_mem hvalue]
  | some tags => simp [cutAt_append hvalue]

/-- The line of a sample whose texts are single lines is a single line. -/
theorem lineFeed_not_mem_line_of_not_mem {sample : Sample} (hgroup : '\n' ∉ sample.group)
    (hmetric : '\n' ∉ sample.metric) (htags : ∀ tags ∈ sample.tags, '\n' ∉ tags) :
    '\n' ∉ sample.line := by
  have hname : '\n' ∉ sample.name := by simp [name, hgroup, hmetric]
  have htimestamp : '\n' ∉ decimalInt sample.timestamp := (isWord_decimalInt _).not_mem (by decide)
  have hvalue : '\n' ∉ decimal sample.value.toNat := (isWord_decimal _).not_mem (by decide)
  rw [line_eq]
  cases hshown : sample.shownTags with
  | none => simp [hname, htimestamp, hvalue]
  | some tags =>
    have htext : '\n' ∉ tags := htags tags (Option.eq_some_of_filter_eq_some hshown)
    simp [hname, htimestamp, hvalue, htext]

/-! ### Samples made of words -/

/-- The texts of the sample are words. -/
structure IsClean (sample : Sample) : Prop where
  group : sample.group.IsWord
  metric : sample.metric.IsWord
  tags : ∀ tags, sample.tags = some tags → tags.IsWord

namespace IsClean

variable {sample : Sample}

theorem name (hclean : sample.IsClean) : sample.name.IsWord :=
  hclean.group.append_cons (by decide) hclean.metric

/-- Tags that are words are shown. -/
theorem shownTags_eq (hclean : sample.IsClean) : sample.shownTags = sample.tags := by
  unfold shownTags
  cases htags : sample.tags with
  | none => rfl
  | some tags => simp [Option.filter, (hclean.tags tags htags).1]

/-- The line of a clean sample falls into its fields, all of which are shown. -/
theorem parts?_line (hclean : sample.IsClean) :
    parts? sample.line = some ⟨sample.name, decimalInt sample.timestamp,
      decimal sample.value.toNat, sample.tags⟩ := by
  rw [Sample.parts?_line (hclean.name.not_mem (by decide)), hclean.shownTags_eq]

theorem series?_line (hclean : sample.IsClean) :
    series? sample.line = some sample.series := by
  rw [series?, hclean.parts?_line, Option.map_some, series]

example : series? "net.sockstat.memory 7 4096 type=tcp".toList =
    some ("net.sockstat.memory".toList, some "type=tcp".toList) := by
  decide

/-- The line of a clean sample is a single line. -/
theorem lineFeed_not_mem_line (hclean : sample.IsClean) : '\n' ∉ sample.line :=
  lineFeed_not_mem_line_of_not_mem (hclean.group.not_mem (by decide))
    (hclean.metric.not_mem (by decide))
    fun tags htags ↦ (hclean.tags tags htags).not_mem (by decide)

/-- The line of a clean sample is not empty. -/
theorem line_ne_nil (hclean : sample.IsClean) : sample.line ≠ [] := by
  rw [line_eq]
  simp [hclean.name.1]

end IsClean

/-! ### Samples of one group -/

/-- The series of a group that has the given metric and tags. -/
def seriesOf (group : Text) (label : Text × Option Text) : Text × Option Text :=
  (group ++ '.' :: label.1, label.2)

theorem seriesOf_injective (group : Text) : Function.Injective (seriesOf group) := by
  rintro ⟨first, firstTags⟩ ⟨second, secondTags⟩ heq
  simpa [seriesOf] using heq

/-- Samples picked from items, one at most for each item, have series of the items. -/
theorem sublist_series_filterMap {α : Type} {seriesAt : α → Text × Option Text}
    {pick : α → Option Sample}
    (hpick : ∀ item sample, pick item = some sample → sample.series = seriesAt item)
    (items : List α) : ((items.filterMap pick).map series).Sublist (items.map seriesAt) := by
  induction items with
  | nil => simp
  | cons item items ih =>
    cases hitem : pick item with
    | none =>
      rw [List.filterMap_cons_none hitem]
      exact ih.trans (List.sublist_cons_self _ _)
    | some sample =>
      rw [List.filterMap_cons_some hitem, List.map_cons, hpick item sample hitem]
      exact ih.cons_cons _

/-- Samples picked from items with distinct series belong to distinct series. -/
theorem nodup_series_filterMap {α : Type} {seriesAt : α → Text × Option Text}
    {pick : α → Option Sample} {items : List α} (hitems : (items.map seriesAt).Nodup)
    (hpick : ∀ item sample, pick item = some sample → sample.series = seriesAt item) :
    ((items.filterMap pick).map series).Nodup :=
  hitems.sublist (sublist_series_filterMap hpick items)

end SocketMetrics.Sample
