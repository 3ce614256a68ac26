import SocketMetrics.Proofs.Number.Integer
import SocketMetrics.Proofs.Sample
/-!
# Metric lines are read back

A metric line tells four things of its sample: the name, the time, the value and the tags. It tells
neither where the name is divided into group and metric nor whether tags that are not shown are
missing or empty, and nothing else goes into it (`line_eq_of_told_eq`). `Sample.read?` reads a line:
it cuts the line at its first three spaces and takes the second part for an integer and the third
for a counter. Where group and metric have no space, it finds what the line tells (`read?_line`),
whatever spaces there are in the tags. Two such samples therefore have the same line exactly if the
same is told of both (`line_eq_iff_told_eq`), which `decodes_uniquely` says field by field.
-/

set_option autoImplicit false
set_option relaxedAutoImplicit false

namespace SocketMetrics.Sample

open Number Text

/-! ### What a line tells -/

/-- What a metric line tells of its sample. -/
structure Told where
  /-- The full name of the metric. -/
  name : Text
  timestamp : ℤ
  value : UInt64
  /-- The tags, if the line shows any. -/
  tags : Option Text
deriving DecidableEq, Repr

/-- What the line of the sample tells. -/
def told (sample : Sample) : Told :=
  ⟨sample.name, sample.timestamp, sample.value, sample.shownTags⟩

/-- Tags are shown unless they are empty, as missing ones count. -/
theorem shownTags_eq_ite (sample : Sample) :
    sample.shownTags = if sample.tags.getD [] = [] then none else some (sample.tags.getD []) := by
  rcases htags : sample.tags with - | ⟨- | ⟨c, tags⟩⟩ <;>
    simp [shownTags, htags, Option.filter]

theorem getD_shownTags (sample : Sample) : sample.shownTags.getD [] = sample.tags.getD [] := by
  rw [shownTags_eq_ite]
  split
  · next hempty => exact hempty.symm
  · rfl

section Pair

variable {first second : Sample}

/-- The same tags are shown where the tags are equal, missing ones counting as empty. -/
theorem shownTags_eq_iff :
    first.shownTags = second.shownTags ↔ first.tags.getD [] = second.tags.getD [] := by
  constructor
  · intro hshown
    rw [← getD_shownTags first, ← getD_shownTags second, hshown]
  · intro htags
    rw [shownTags_eq_ite, shownTags_eq_ite, htags]

theorem told_eq_iff :
    first.told = second.told ↔
      first.name = second.name ∧ first.timestamp = second.timestamp ∧
        first.value = second.value ∧ first.tags.getD [] = second.tags.getD [] := by
  rw [told, told, Told.mk.injEq, shownTags_eq_iff]

/-- A line is made of nothing but what it tells. -/
theorem line_eq_of_told_eq (htold : first.told = second.told) : first.line = second.line := by
  obtain ⟨hname, htimestamp, hvalue, htags⟩ := Told.mk.inj htold
  rw [line_eq, line_eq, hname, htimestamp, hvalue, htags]

end Pair

/-! ### Reading a line -/

/-- Reads a metric line, cut at its first three spaces: the second part is an integer and the third
a counter. -/
def read? (line : Text) : Option Told := do
  let parts ← parts? line
  let timestamp ← integer? parts.timestamp
  let value ← count? parts.value
  return ⟨parts.name, timestamp, value, parts.tags⟩

/-- There is no space in the group and the metric of the sample. -/
structure IsUnspaced (sample : Sample) : Prop where
  group : ' ' ∉ sample.group
  metric : ' ' ∉ sample.metric

theorem IsUnspaced.name {sample : Sample} (hunspaced : sample.IsUnspaced) : ' ' ∉ sample.name := by
  rw [Sample.name, List.mem_append, List.mem_cons]
  rintro (hgroup | hdot | hmetric)
  · exact hunspaced.group hgroup
  · exact absurd hdot (by decide)
  · exact hunspaced.metric hmetric

/-- The line of a sample is read as what it tells. -/
theorem read?_line {sample : Sample} (hunspaced : sample.IsUnspaced) :
    read? sample.line = some sample.told := by
  have hparts := parts?_line hunspaced.name
  have htimestamp : integer? (decimalInt sample.timestamp) = some sample.timestamp :=
    integer?_decimalInt sample.timestamp
  have hvalue : count? (decimal sample.value.toNat) = some sample.value :=
    count?_eq_some_iff.mpr (isCount_decimal sample.value.toNat_lt)
  simp only [read?, hparts, htimestamp, hvalue, Option.bind_eq_bind, Option.bind_some]
  rfl

/-! ### Samples with the same line -/

section Pair

variable {first second : Sample} (hfirst : first.IsUnspaced) (hsecond : second.IsUnspaced)

include hfirst hsecond

/-- Lines are the same exactly if they tell the same. -/
theorem line_eq_iff_told_eq : first.line = second.line ↔ first.told = second.told := by
  constructor
  · intro hline
    have hread := congrArg read? hline
    rw [read?_line hfirst, read?_line hsecond] at hread
    exact Option.some.inj hread
  · exact line_eq_of_told_eq

/-- **Metric lines decode uniquely.** Samples whose groups and metrics have no space have the same
line if and only if they agree in the full name, the time, the value and the tags, where missing and
empty tags count as equal; and a line, cut at its first three spaces, gives these four back. -/
theorem decodes_uniquely :
    (first.line = second.line ↔
      first.name = second.name ∧ first.timestamp = second.timestamp ∧
        first.value = second.value ∧ first.tags.getD [] = second.tags.getD []) ∧
    read? first.line = some ⟨first.name, first.timestamp, first.value, first.shownTags⟩ := by
  have hsame := (line_eq_iff_told_eq hfirst hsecond).trans told_eq_iff
  exact ⟨hsame, read?_line hfirst⟩

end Pair

/-- Samples whose names are divided in different places have the same line, from which a time below
zero, the greatest counter and tags with spaces at their beginning and in them are read. -/
theorem decodes_spaced_tags :
    let short : Sample :=
      ⟨"net".toList, "stat.tcp.memory".toList, -5, 18446744073709551615, some " a  b".toList⟩
    let long : Sample :=
      ⟨"net.stat.tcp".toList, "memory".toList, -5, 18446744073709551615, some " a  b".toList⟩
    short.IsUnspaced ∧ long.IsUnspaced ∧ short.line = long.line ∧
      read? "net.stat.tcp.memory -5 18446744073709551615  a  b".toList =
        some ⟨"net.stat.tcp.memory".toList, -5, 18446744073709551615, some " a  b".toList⟩ := by
  intro short long
  have hshort : short.IsUnspaced := ⟨by decide, by decide⟩
  have hlong : long.IsUnspaced := ⟨by decide, by decide⟩
  have htext : short.line = "net.stat.tcp.memory -5 18446744073709551615  a  b".toList := by
    decide +kernel
  obtain ⟨hlines, hread⟩ := decodes_uniquely hshort hlong
  rw [htext] at hread
  exact ⟨hshort, hlong, hlines.mpr ⟨rfl, rfl, rfl, rfl⟩, hread⟩

/-- A space in the metric would be taken for the one behind it. -/
example : line ⟨"net".toList, "drops 1".toList, 2, 3, none⟩ =
    line ⟨"net".toList, "drops".toList, 1, 2, some "3".toList⟩ := by
  decide

end SocketMetrics.Sample
