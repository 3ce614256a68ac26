import SocketMetrics.Proofs.Netstat.Columns
import SocketMetrics.Proofs.Netstat.Reading
/-!
# The format of the protocol counter table

`WellFormed content` is the format that reading accepts, said of the lines of the content alone:
every section with a row has exactly two, of one width, and where `ListenDrops` is a name its last
column holds a counter, as does the last column of `ListenOverflows` if there is one. `Shows content
table` is what the table then holds: the sections in the order of their first rows, and in each of
them, for every name of its first row, the value in the last column of that name, except that
`ListenDrops` is the numeral of the drops without the overflows. `read_accepts_format` puts both
together.
-/

set_option autoImplicit false
set_option relaxedAutoImplicit false

namespace SocketMetrics.Netstat

open Number Steps

/-! ### The format -/

/-- The rows of a section that can be read: they have one width, and the counters that the
correction needs are counters. -/
structure WellFormedRows (names values : List Text) : Prop where
  length_eq : names.length = values.length
  drops : listenDrops ∈ names →
    ∃ raw drops, LastColumn names values listenDrops raw ∧ IsCount raw drops
  overflows : listenDrops ∈ names → listenOverflows ∈ names →
    ∃ raw overflows, LastColumn names values listenOverflows raw ∧ IsCount raw overflows

/-- Every section that has rows has two, and these can be read. -/
def WellFormed (content : Text) : Prop :=
  ∀ of, rowsOf of content.lines ≠ [] →
    ∃ names values, rowsOf of content.lines = [names, values] ∧ WellFormedRows names values

/-- The number of overflows in two rows, zero where they are not counted. -/
def OverflowCount (names values : List Text) (overflows : ℕ) : Prop :=
  (listenOverflows ∉ names ∧ overflows = 0) ∨
    ∃ raw, LastColumn names values listenOverflows raw ∧ IsCount raw overflows

/-- The value that is in force for a name in two rows. -/
def InForce (names values : List Text) (name raw : Text) : Prop :=
  if name = listenDrops then
    ∃ written drops overflows, LastColumn names values listenDrops written ∧
      IsCount written drops ∧ OverflowCount names values overflows ∧
      raw = decimal (drops - overflows)
  else LastColumn names values name raw

/-- What a table holds of a content. -/
structure Shows (content : Text) (table : Table) : Prop where
  mem_iff : ∀ of, of ∈ table.map Counters.of ↔ rowsOf of content.lines ≠ []
  ordered : (table.map Counters.of).Pairwise fun first second ↦
    firstRow first content.lines < firstRow second content.lines
  raw?_iff : ∀ counters ∈ table, ∃ names values,
    rowsOf counters.of content.lines = [names, values] ∧
      ∀ name raw, counters.raw? name = some raw ↔ InForce names values name raw

/-! ### Two rows of one width -/

section Rows

variable {names values : List Text}

theorem overflows_columns_iff (of : Section) (hlength : names.length = values.length)
    {overflows : ℕ} :
    Counters.Overflows ⟨of, columns names values⟩ overflows ↔
      OverflowCount names values overflows := by
  unfold Counters.Overflows OverflowCount Counters.raw?
  simp only [lookup_columns_eq_none_iff hlength, lookup_columns_eq_some_iff hlength]

/-- Rows with drops that can be read have a number of overflows. -/
theorem WellFormedRows.exists_overflowCount (hrows : WellFormedRows names values)
    (hlisted : listenDrops ∈ names) : ∃ overflows, OverflowCount names values overflows := by
  by_cases hcounted : listenOverflows ∈ names
  · obtain ⟨raw, overflows, hraw, hcount⟩ := hrows.overflows hlisted hcounted
    exact ⟨overflows, Or.inr ⟨raw, hraw, hcount⟩⟩
  · exact ⟨0, Or.inl ⟨hcounted, rfl⟩⟩

/-- Two rows have one number of overflows. -/
theorem OverflowCount.unique (hlength : names.length = values.length) {first second : ℕ}
    (hfirst : OverflowCount names values first) (hsecond : OverflowCount names values second) :
    first = second := by
  rcases hfirst with ⟨hmissing, rfl⟩ | ⟨one, hone, hcount⟩
  · rcases hsecond with ⟨-, rfl⟩ | ⟨other, hother, -⟩
    · rfl
    · exact absurd hother.mem hmissing
  · rcases hsecond with ⟨hmissing, -⟩ | ⟨other, hother, hagain⟩
    · exact absurd hone.mem hmissing
    · rw [hone.unique hlength hother] at hcount
      exact hcount.unique hagain

/-- Two rows can be read when they have one width and the correction of their columns succeeds. -/
theorem wellFormedRows_iff (of : Section) : WellFormedRows names values ↔
    names.length = values.length ∧
      ∃ counters, Counters.correct ⟨of, columns names values⟩ = .ok counters := by
  constructor
  · intro hrows
    have hlength := hrows.length_eq
    refine ⟨hlength, ?_⟩
    simp only [Counters.correct_eq_ok_iff]
    by_cases hlisted : listenDrops ∈ names
    · obtain ⟨raw, drops, hraw, hdrops⟩ := hrows.drops hlisted
      obtain ⟨overflows, hoverflows⟩ := hrows.exists_overflowCount hlisted
      exact ⟨_, Or.inr ⟨raw, drops, overflows, (lookup_columns_eq_some_iff hlength _ _).mpr hraw,
        hdrops, (overflows_columns_iff of hlength).mpr hoverflows, rfl⟩⟩
    · exact ⟨_, Or.inl ⟨(lookup_columns_eq_none_iff hlength _).mpr hlisted, rfl⟩⟩
  · rintro ⟨hlength, counters, hcorrect⟩
    rcases Counters.correct_eq_ok_iff.mp hcorrect with ⟨hnone, -⟩ |
      ⟨raw, drops, overflows, hraw, hdrops, hoverflows, -⟩
    · have hmissing := (lookup_columns_eq_none_iff hlength _).mp hnone
      exact ⟨hlength, fun hlisted ↦ absurd hlisted hmissing,
        fun hlisted ↦ absurd hlisted hmissing⟩
    · refine ⟨hlength, fun _ ↦ ⟨raw, drops, ?_, hdrops⟩, fun _ hcounted ↦ ?_⟩
      · exact (lookup_columns_eq_some_iff hlength _ _).mp hraw
      · rcases (overflows_columns_iff of hlength).mp hoverflows with ⟨hmissing, -⟩ | ⟨other, hother⟩
        · exact absurd hcounted hmissing
        · exact ⟨other, overflows, hother⟩

/-- After the correction a name has the value that is in force for it. -/
theorem raw?_of_correct {of : Section} (hlength : names.length = values.length)
    {counters : Counters}
    (hcorrect : Counters.correct ⟨of, columns names values⟩ = .ok counters) (name raw : Text) :
    counters.raw? name = some raw ↔ InForce names values name raw := by
  have hcolumn (written : Text) : Counters.raw? ⟨of, columns names values⟩ name = some written ↔
      LastColumn names values name written := lookup_columns_eq_some_iff hlength name written
  unfold InForce
  rcases Counters.correct_eq_ok_iff.mp hcorrect with ⟨hnone, rfl⟩ |
    ⟨written, drops, overflows, hwritten, hdrops, hoverflows, rfl⟩
  · by_cases hname : name = listenDrops
    · subst hname
      simp only [if_pos, hnone, ← hcolumn, reduceCtorEq, false_and, exists_false]
    · rw [if_neg hname, hcolumn]
  · rw [Counters.raw?_insert]
    by_cases hname : name = listenDrops
    · subst hname
      rw [if_pos rfl, if_pos rfl, Option.some.injEq]
      constructor
      · rintro rfl
        exact ⟨written, drops, overflows, (hcolumn written).mp hwritten, hdrops,
          (overflows_columns_iff of hlength).mp hoverflows, rfl⟩
      · rintro ⟨other, others, taken, hother, hothers, htaken, rfl⟩
        -- the correction has one result, so both ways to state it give the same numeral
        have hagain := Counters.correct_eq_ok_iff.mpr (Or.inr ⟨other, others, taken,
          (hcolumn other).mpr hother, hothers, (overflows_columns_iff of hlength).mpr htaken, rfl⟩)
        rw [hcorrect] at hagain
        have hsame := congrArg (fun counters ↦ counters.raw? listenDrops)
          (Except.ok.inj hagain)
        simpa [Counters.raw?_insert] using hsame
    · rw [if_neg hname, if_neg hname, hcolumn]

end Rows

/-! ### The whole content -/

/-- Reading succeeds on the contents that have the format. -/
theorem exists_read_eq_ok_iff {content : Text} :
    (∃ table, (Table.read content).table = .ok table) ↔ WellFormed content := by
  simp only [Table.read_eq_ok_iff]
  rw [exists_forall₂_iff_forall_mem]
  refine forall_congr' fun of ↦ ?_
  rw [mem_sectionsOf_iff_rowsOf_ne_nil]
  refine imp_congr_right fun _ ↦ ?_
  constructor
  · rintro ⟨counters, names, values, hrows, hlength, hcorrect⟩
    exact ⟨names, values, hrows, (wellFormedRows_iff of).mpr ⟨hlength, counters, hcorrect⟩⟩
  · rintro ⟨names, values, hrows, hformed⟩
    obtain ⟨hlength, counters, hcorrect⟩ := (wellFormedRows_iff of).mp hformed
    exact ⟨counters, names, values, hrows, hlength, hcorrect⟩

/-- The two rows of a section can be read when the content was read. -/
theorem wellFormedRows_of_read {content : Text} {table : Table}
    (hread : (Table.read content).table = .ok table) {of : Section} {names values : List Text}
    (hrows : rowsOf of content.lines = [names, values]) : WellFormedRows names values := by
  have hsome : rowsOf of content.lines ≠ [] := by simp [hrows]
  obtain ⟨_, _, hrows', hformed⟩ := exists_read_eq_ok_iff.mp ⟨table, hread⟩ of hsome
  rw [hrows] at hrows'
  cases hrows'
  exact hformed

/-- A table that was read shows the content. -/
theorem shows_of_read {content : Text} {table : Table}
    (hread : (Table.read content).table = .ok table) : Shows content table := by
  have hsections := map_of_eq_sectionsOf hread
  refine ⟨fun of ↦ ?_, ?_, fun counters hcounters ↦ ?_⟩
  · rw [hsections, mem_sectionsOf_iff_rowsOf_ne_nil]
  · rw [hsections]
    exact pairwise_firstRow_sectionsOf content.lines
  · rw [Table.read_eq_ok_iff] at hread
    obtain ⟨place, hplace, hget⟩ := List.mem_iff_getElem.mp hcounters
    obtain ⟨names, values, hrows, hlength, hcorrect⟩ :=
      hread.get (hread.length_eq ▸ hplace) hplace
    simp only [List.get_eq_getElem, hget] at hrows hcorrect
    refine ⟨names, values, ?_, raw?_of_correct hlength hcorrect⟩
    rw [of_correct hcorrect]
    exact hrows

/-- A content is read exactly when it has the format, and the table shows what the content says. -/
theorem read_accepts_format (content : Text) :
    ((∃ table, (Table.read content).table = .ok table) ↔ WellFormed content) ∧
      ∀ table, (Table.read content).table = .ok table → Shows content table :=
  ⟨exists_read_eq_ok_iff, fun _ ↦ shows_of_read⟩

/-- The rows of two sections may take turns and stand under different headers of a section. -/
example : (Table.read "Ip: A A\nTcp: B\nIpExt: 1 2\nTcpExt: 3\n".toList).table =
    .ok [⟨.ip, [("A".toList, "2".toList), ("A".toList, "1".toList)]⟩,
      ⟨.tcp, [("B".toList, "3".toList)]⟩] := by decide

end SocketMetrics.Netstat
