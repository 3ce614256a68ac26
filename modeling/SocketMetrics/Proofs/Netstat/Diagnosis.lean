import SocketMetrics.Proofs.Netstat.Columns
import SocketMetrics.Proofs.Netstat.Reading
/-!
# What is wrong with a protocol counter table

The faults come to light in three passes: a mismatch of widths while the lines are gone through, a
wrong number of lines when the sections are closed, and a value that is no number when they are
corrected. `Diagnosis content warnings fault?` says of the lines of a content alone which fault is
reported and with which warnings: a fault of an earlier pass hides those of later ones, and within a
pass the first fault is reported, by position of its line in the first pass and in the order in
which the sections first appear in the other two. Only a mismatch cuts the warnings short.
`reports_diagnosis` shows that this is what reading reports, and that lines without a header or
under the header that is not collected have no part in it.
-/

set_option autoImplicit false
set_option relaxedAutoImplicit false

namespace SocketMetrics.Netstat

open Number Steps

/-- The fault that ended the reading, if one did. -/
def Reading.fault? (reading : Reading) : Option TableError :=
  match reading.table with
  | .ok _ => none
  | .error fault => some fault

theorem Reading.fault?_eq_some_iff {reading : Reading} {fault : TableError} :
    reading.fault? = some fault ↔ reading.table = .error fault := by
  unfold Reading.fault?
  cases reading.table <;> simp

theorem Reading.fault?_eq_none_iff {reading : Reading} :
    reading.fault? = none ↔ ∃ table, reading.table = .ok table := by
  unfold Reading.fault?
  cases reading.table <;> simp

/-- The same fault in another content. -/
def TableError.within (content : Text) : TableError → TableError
  | lineCount of lines _ => lineCount of lines content
  | columnMismatch of names values _ => columnMismatch of names values content
  | invalidValue of counter value => invalidValue of counter value

/-! ### The diagnosis -/

/-- A value of the section stands in the way of the correction. -/
def OffendsIn (lines : List Text) (of : Section) (counter raw : Text) : Prop :=
  ∃ names values, rowsOf of lines = [names, values] ∧
    Offends (LastColumn names values) counter raw

/-- The warnings and the fault, if there is one, that the lines of a content give rise to. -/
inductive Diagnosis (content : Text) : List Warning → Option TableError → Prop where
  /-- A line is the second of its section and not as wide as the first, and no line in front of it
  is like that. -/
  | columnMismatch {before later : List Text} {line : Text} {of : Section}
      {names values : List Text} (hlines : content.lines = before ++ line :: later)
      (hbefore : WidthsAgree before) (hmismatch : IsMismatch before line of names values) :
      Diagnosis content (warningsOf content before)
        (some (.columnMismatch of names.length values.length content))
  /-- A section has another number of lines than two. -/
  | lineCount {of : Section} (hwidths : WidthsAgree content.lines)
      (hfirst : IsFirst (fun of ↦ (rowsOf of content.lines).length ≠ 2)
        (sectionsOf content.lines) of) :
      Diagnosis content (warningsOf content content.lines)
        (some (.lineCount of (rowsOf of content.lines).length content))
  /-- A section has a value that stands in the way of the correction. -/
  | invalidValue {of : Section} {counter raw : Text} (hwidths : WidthsAgree content.lines)
      (hcounts : ∀ of ∈ sectionsOf content.lines, (rowsOf of content.lines).length = 2)
      (hfirst : IsFirst (fun of ↦ ∃ counter raw, OffendsIn content.lines of counter raw)
        (sectionsOf content.lines) of)
      (hoffends : OffendsIn content.lines of counter raw) :
      Diagnosis content (warningsOf content content.lines) (some (.invalidValue of counter raw))
  /-- Nothing is wrong. -/
  | sound (hwidths : WidthsAgree content.lines)
      (hcounts : ∀ of ∈ sectionsOf content.lines, (rowsOf of content.lines).length = 2)
      (hvalues : ∀ of ∈ sectionsOf content.lines, ∀ counter raw,
        ¬ OffendsIn content.lines of counter raw) :
      Diagnosis content (warningsOf content content.lines) none

variable {content : Text}

/-! ### The first mismatch -/

theorem IsMismatch.not_widthsAgree {before : List Text} {line : Text} {of : Section}
    {names values : List Text} (hmismatch : IsMismatch before line of names values)
    (later : List Text) : ¬ WidthsAgree (before ++ line :: later) := by
  intro hwidths
  exact hmismatch.2.2 (hwidths of names values _ (hmismatch.rowsOf_eq later))

/-- Lines have at most one first mismatch. -/
theorem IsMismatch.unique {before before' later later' : List Text} {line line' : Text}
    {of of' : Section} {names values names' values' : List Text}
    (hlines : before ++ line :: later = before' ++ line' :: later')
    (hbefore : WidthsAgree before) (hmismatch : IsMismatch before line of names values)
    (hbefore' : WidthsAgree before') (hmismatch' : IsMismatch before' line' of' names' values') :
    before = before' ∧ line = line' := by
  rcases List.append_eq_append_iff.mp hlines with ⟨between, hfront, hback⟩ |
    ⟨between, hfront, hback⟩
  · cases between with
    | nil => exact ⟨by simpa using hfront.symm, (List.cons.inj hback).1⟩
    | cons first between =>
      rw [hfront, ← (List.cons.inj hback).1] at hbefore'
      exact absurd hbefore' (hmismatch.not_widthsAgree between)
  · cases between with
    | nil => exact ⟨by simpa using hfront, (List.cons.inj hback).1.symm⟩
    | cons first between =>
      rw [hfront, ← (List.cons.inj hback).1] at hbefore
      exact absurd hbefore (hmismatch'.not_widthsAgree between)

/-- A mismatch of the same line in the same place has one section and one width each. -/
theorem IsMismatch.fault_unique {before : List Text} {line : Text} {of of' : Section}
    {names values names' values' : List Text}
    (hmismatch : IsMismatch before line of names values)
    (hmismatch' : IsMismatch before line of' names' values') :
    of = of' ∧ names = names' ∧ values = values' := by
  obtain ⟨hrow, hnames, -⟩ := hmismatch
  obtain ⟨hrow', hnames', -⟩ := hmismatch'
  rw [hrow] at hrow'
  cases hrow'
  rw [hnames] at hnames'
  cases hnames'
  exact ⟨rfl, rfl, rfl⟩

/-- Reading stops at the first mismatch. -/
theorem read_of_isMismatch {before later : List Text} {line : Text} {of : Section}
    {names values : List Text} (hlines : content.lines = before ++ line :: later)
    (hbefore : WidthsAgree before) (hmismatch : IsMismatch before line of names values) :
    Table.read content = ⟨warningsOf content before,
      .error (.columnMismatch of names.length values.length content)⟩ := by
  rcases Table.read_cases content with ⟨last, hfollows, -, -⟩ |
    ⟨before', line', later', of', names', values', hlines', hbefore', hmismatch', hread, htable⟩
  · have hwidths := hfollows.length_eq
    rw [hlines] at hwidths
    exact absurd hwidths (hmismatch.not_widthsAgree later)
  · rw [hlines] at hlines'
    obtain ⟨rfl, rfl⟩ := hmismatch.unique hlines' hbefore hbefore' hmismatch'
    obtain ⟨rfl, rfl, rfl⟩ := hmismatch.fault_unique hmismatch'
    rw [← hread, ← htable]

/-! ### Faults of whole sections -/

/-- Without a mismatch, reading goes through all lines, closes the sections in the order of their
first lines and then corrects them. -/
theorem read_of_widthsAgree (hwidths : WidthsAgree content.lines) :
    Table.read content = ⟨warningsOf content content.lines, do
      let sections ← (sectionsOf content.lines).mapM fun of ↦
        Accumulator.finish content ⟨of, .ofRows (rowsOf of content.lines)⟩
      sections.mapM Counters.correct⟩ := by
  rcases Table.read_cases content with ⟨last, hfollows, hwarnings, htable⟩ |
    ⟨before, line, later, of, names, values, hlines, -, hmismatch, -, -⟩
  · rw [hfollows.accumulators_eq, List.mapM_map] at htable
    rw [← hwarnings]
    exact congrArg (Reading.mk _) htable
  · rw [hlines] at hwidths
    exact absurd hwidths (hmismatch.not_widthsAgree later)

/-- A section with another number of lines than two is reported when no line is a mismatch. -/
theorem read_of_lineCount {of : Section} (hwidths : WidthsAgree content.lines)
    (hfirst : IsFirst (fun of ↦ (rowsOf of content.lines).length ≠ 2)
      (sectionsOf content.lines) of) :
    Table.read content = ⟨warningsOf content content.lines,
      .error (.lineCount of (rowsOf of content.lines).length content)⟩ := by
  rw [read_of_widthsAgree hwidths]
  congr 1
  refine bind_eq_error_iff.mpr (Or.inl (mapM_eq_error_iff.mpr ⟨of, ?_, ?_⟩))
  · refine hfirst.congr fun other _ ↦ ?_
    simp [Accumulator.finish_eq_error_iff]
  · exact Accumulator.finish_eq_error_iff.mpr ⟨hfirst.holds, rfl⟩

/-- Sections of two lines each can be closed. -/
theorem exists_mapM_finish_eq_ok
    (hcounts : ∀ of ∈ sectionsOf content.lines, (rowsOf of content.lines).length = 2) :
    ∃ sections, (sectionsOf content.lines).mapM (fun of ↦
        Accumulator.finish content ⟨of, .ofRows (rowsOf of content.lines)⟩) = .ok sections ∧
      List.Forall₂ (fun of counters ↦ ∃ names values, rowsOf of content.lines = [names, values] ∧
        counters = ⟨of, columns names values⟩) (sectionsOf content.lines) sections := by
  simp only [mapM_eq_ok_iff_forall₂, Accumulator.finish_eq_ok_iff, and_self]
  refine exists_forall₂_iff_forall_mem.mpr fun of hof ↦ ?_
  obtain ⟨names, values, hrows⟩ := List.length_eq_two.mp (hcounts of hof)
  exact ⟨_, names, values, hrows, rfl⟩

/-- The columns of two rows of one width offend when the last columns do. -/
theorem offends_columns_iff {of : Section} {names values : List Text}
    (hlength : names.length = values.length) {counter raw : Text} :
    Offends (fun name raw ↦ Counters.raw? ⟨of, columns names values⟩ name = some raw) counter raw ↔
      Offends (LastColumn names values) counter raw := by
  unfold Counters.raw?
  simp only [lookup_columns_eq_some_iff hlength]

/-- The correction of a section fails over a value that offends in its rows. -/
theorem correct_columns_eq_error_iff {lines : List Text} (hwidths : WidthsAgree lines)
    {of : Section} {names values : List Text} (hrows : rowsOf of lines = [names, values])
    {error : TableError} :
    Counters.correct ⟨of, columns names values⟩ = .error error ↔
      ∃ counter raw, OffendsIn lines of counter raw ∧ error = .invalidValue of counter raw := by
  have hlength := hwidths of names values [] hrows
  rw [Counters.correct_eq_error_iff]
  simp only [offends_columns_iff hlength, OffendsIn, hrows, List.cons.injEq, and_true]
  refine exists₂_congr fun counter raw ↦ and_congr_left fun _ ↦ ?_
  constructor
  · intro hoffends
    exact ⟨names, values, ⟨rfl, rfl⟩, hoffends⟩
  · rintro ⟨_, _, ⟨rfl, rfl⟩, hoffends⟩
    exact hoffends

theorem exists_correct_columns_eq_error_iff {lines : List Text} (hwidths : WidthsAgree lines)
    {of : Section} {names values : List Text} (hrows : rowsOf of lines = [names, values]) :
    (∃ fault, Counters.correct ⟨of, columns names values⟩ = .error fault) ↔
      ∃ counter raw, OffendsIn lines of counter raw := by
  simp only [correct_columns_eq_error_iff hwidths hrows]
  constructor
  · rintro ⟨fault, counter, raw, hoffends, -⟩
    exact ⟨counter, raw, hoffends⟩
  · rintro ⟨counter, raw, hoffends⟩
    exact ⟨_, counter, raw, hoffends, rfl⟩

/-- A value that stands in the way of the correction is reported when nothing else is wrong. -/
theorem read_of_offendsIn {of : Section} {counter raw : Text} (hwidths : WidthsAgree content.lines)
    (hcounts : ∀ of ∈ sectionsOf content.lines, (rowsOf of content.lines).length = 2)
    (hfirst : IsFirst (fun of ↦ ∃ counter raw, OffendsIn content.lines of counter raw)
      (sectionsOf content.lines) of)
    (hoffends : OffendsIn content.lines of counter raw) :
    Table.read content = ⟨warningsOf content content.lines,
      .error (.invalidValue of counter raw)⟩ := by
  obtain ⟨sections, hsections, hall⟩ := exists_mapM_finish_eq_ok hcounts
  have hsame (of : Section) (counters : Counters)
      (hclosed : ∃ names values, rowsOf of content.lines = [names, values] ∧
        counters = ⟨of, columns names values⟩) :
      (∃ counter raw, OffendsIn content.lines of counter raw) ↔
        ∃ fault, counters.correct = .error fault := by
    obtain ⟨names, values, hrows, rfl⟩ := hclosed
    exact (exists_correct_columns_eq_error_iff hwidths hrows).symm
  obtain ⟨_, ⟨names, values, hrows, rfl⟩, hfound⟩ := hfirst.exists_of_forall₂ hall hsame
  have hcorrect := (correct_columns_eq_error_iff hwidths hrows).mpr ⟨counter, raw, hoffends, rfl⟩
  rw [read_of_widthsAgree hwidths]
  congr 1
  refine bind_eq_error_iff.mpr (Or.inr ⟨sections, hsections, ?_⟩)
  exact mapM_eq_error_iff.mpr ⟨_, hfound, hcorrect⟩

/-- When nothing is wrong, reading succeeds. -/
theorem exists_read_of_sound (hwidths : WidthsAgree content.lines)
    (hcounts : ∀ of ∈ sectionsOf content.lines, (rowsOf of content.lines).length = 2)
    (hvalues : ∀ of ∈ sectionsOf content.lines, ∀ counter raw,
      ¬ OffendsIn content.lines of counter raw) :
    ∃ table, Table.read content = ⟨warningsOf content content.lines, .ok table⟩ := by
  have hok : ∃ table, (Table.read content).table = .ok table := by
    simp only [Table.read_eq_ok_iff]
    refine exists_forall₂_iff_forall_mem.mpr fun of hof ↦ ?_
    obtain ⟨names, values, hrows⟩ := List.length_eq_two.mp (hcounts of hof)
    cases hcorrect : Counters.correct ⟨of, columns names values⟩ with
    | ok counters => exact ⟨counters, names, values, hrows, hwidths _ _ _ _ hrows, hcorrect⟩
    | error fault =>
      obtain ⟨counter, raw, hoffends⟩ :=
        (exists_correct_columns_eq_error_iff hwidths hrows).mp ⟨fault, hcorrect⟩
      exact absurd hoffends (hvalues of hof counter raw)
  obtain ⟨table, htable⟩ := hok
  refine ⟨table, ?_⟩
  rw [← Table.read_of_ok htable, ← htable]

/-! ### The report -/

/-- Reading reports the diagnosis of its content. -/
theorem Diagnosis.read {warnings : List Warning} {fault? : Option TableError}
    (hdiagnosis : Diagnosis content warnings fault?) :
    (Table.read content).warnings = warnings ∧ (Table.read content).fault? = fault? := by
  cases hdiagnosis with
  | columnMismatch hlines hbefore hmismatch =>
    rw [read_of_isMismatch hlines hbefore hmismatch]
    exact ⟨rfl, rfl⟩
  | lineCount hwidths hfirst =>
    rw [read_of_lineCount hwidths hfirst]
    exact ⟨rfl, rfl⟩
  | invalidValue hwidths hcounts hfirst hoffends =>
    rw [read_of_offendsIn hwidths hcounts hfirst hoffends]
    exact ⟨rfl, rfl⟩
  | sound hwidths hcounts hvalues =>
    obtain ⟨table, htable⟩ := exists_read_of_sound hwidths hcounts hvalues
    rw [htable]
    exact ⟨rfl, rfl⟩

/-- Every content has a diagnosis. -/
theorem exists_diagnosis (content : Text) :
    ∃ warnings fault?, Diagnosis content warnings fault? := by
  rcases Table.read_cases content with ⟨last, hfollows, -, -⟩ |
    ⟨before, line, later, of, names, values, hlines, hbefore, hmismatch, -, -⟩
  · have hwidths := hfollows.length_eq
    by_cases hcounts : ∀ of ∈ sectionsOf content.lines, (rowsOf of content.lines).length = 2
    · by_cases hvalues : ∃ of ∈ sectionsOf content.lines, ∃ counter raw,
          OffendsIn content.lines of counter raw
      · obtain ⟨of, hfirst⟩ := exists_isFirst_iff.mpr hvalues
        obtain ⟨counter, raw, hoffends⟩ := hfirst.holds
        exact ⟨_, _, .invalidValue hwidths hcounts hfirst hoffends⟩
      · push Not at hvalues
        exact ⟨_, _, .sound hwidths hcounts hvalues⟩
    · push Not at hcounts
      obtain ⟨of, hfirst⟩ := exists_isFirst_iff.mpr hcounts
      exact ⟨_, _, .lineCount hwidths hfirst⟩
  · exact ⟨_, _, .columnMismatch hlines hbefore hmismatch⟩

/-- Reading reports the diagnosis of its content and nothing else. -/
theorem report_iff_diagnosis {warnings : List Warning} {fault? : Option TableError} :
    (Table.read content).warnings = warnings ∧ (Table.read content).fault? = fault? ↔
      Diagnosis content warnings fault? := by
  constructor
  · rintro ⟨rfl, rfl⟩
    obtain ⟨warnings, fault?, hdiagnosis⟩ := exists_diagnosis content
    obtain ⟨rfl, rfl⟩ := hdiagnosis.read
    exact hdiagnosis
  · exact Diagnosis.read

/-! ### Failures and the lines gone through -/

/-- How reading a content fails, and which lines at its head were gone through until then. -/
inductive FailsBehind (content : Text) : List Text → TableError → Prop where
  /-- The line behind the ones gone through does not fit its section. -/
  | columnMismatch {seen later : List Text} {line : Text} {of : Section} {names values : List Text}
      (hlines : content.lines = seen ++ line :: later)
      (hmismatch : IsMismatch seen line of names values) :
      FailsBehind content seen (.columnMismatch of names.length values.length content)
  /-- A section has rows, but not two. -/
  | lineCount {of : Section} (hof : of ∈ sectionsOf content.lines)
      (hlength : (rowsOf of content.lines).length ≠ 2) :
      FailsBehind content content.lines
        (.lineCount of (rowsOf of content.lines).length content)
  /-- A value that the correction needs is no number. -/
  | invalidValue {of : Section} (hof : of ∈ sectionsOf content.lines) (counter raw : Text) :
      FailsBehind content content.lines (.invalidValue of counter raw)

/-- A failure comes with the warnings about the lines gone through. -/
theorem Table.read_of_error {error : TableError}
    (herror : (Table.read content).table = .error error) :
    ∃ seen, FailsBehind content seen error ∧
      (Table.read content).warnings = warningsOf content seen := by
  have hdiagnosis := report_iff_diagnosis.mp ⟨rfl, Reading.fault?_eq_some_iff.mpr herror⟩
  generalize (Table.read content).warnings = warnings at hdiagnosis ⊢
  cases hdiagnosis with
  | columnMismatch hlines _ hmismatch => exact ⟨_, .columnMismatch hlines hmismatch, rfl⟩
  | lineCount _ hfirst => exact ⟨_, .lineCount hfirst.mem hfirst.holds, rfl⟩
  | invalidValue _ _ hfirst _ => exact ⟨_, .invalidValue hfirst.mem _ _, rfl⟩

/-- Only the drops and the overflows of the listen queues are refused as values. -/
theorem Table.counter_of_read_eq_error {of : Section} {counter raw : Text}
    (herror : (Table.read content).table = .error (.invalidValue of counter raw)) :
    counter = listenDrops ∨ counter = listenOverflows := by
  have hdiagnosis := report_iff_diagnosis.mp ⟨rfl, Reading.fault?_eq_some_iff.mpr herror⟩
  generalize (Table.read content).warnings = warnings at hdiagnosis
  cases hdiagnosis with
  | invalidValue _ _ _ hoffends =>
    obtain ⟨names, values, -, hvalue⟩ := hoffends
    exact hvalue.counter_eq

/-- A number of lines that is reported is neither none nor the right one. -/
theorem Table.lineCount_ne {of : Section} {count : ℕ} {carried : Text}
    (herror : (Table.read content).table = .error (.lineCount of count carried)) :
    count ≠ 0 ∧ count ≠ 2 := by
  have hdiagnosis := report_iff_diagnosis.mp ⟨rfl, Reading.fault?_eq_some_iff.mpr herror⟩
  generalize (Table.read content).warnings = warnings at hdiagnosis
  cases hdiagnosis with
  | lineCount _ hfirst =>
    have hrows := mem_sectionsOf_iff_rowsOf_ne_nil.mp hfirst.mem
    exact ⟨mt List.length_eq_zero_iff.mp hrows, hfirst.holds⟩

/-! ### Lines that have no part in the diagnosis -/

/-- The line is blank, or it stands under the header that is not collected. -/
def IsPassedOver (line : Text) : Prop :=
  line.words = [] ∨ line.words.head? = some unsupportedHeader

section PassedOver

variable {line : Text}

theorem IsPassedOver.row?_eq_none (hpassed : IsPassedOver line) : row? line = none := by
  unfold row?
  rcases hpassed with hwords | hhead
  · rw [hwords]
  · obtain ⟨cells, hwords⟩ := List.head?_eq_some_iff.mp hhead
    simp [hwords, ofHeader?_unsupportedHeader]

theorem IsPassedOver.unknown?_eq_none (hpassed : IsPassedOver line) : unknown? line = none := by
  unfold unknown?
  rcases hpassed with hwords | hhead
  · rw [hwords]
  · obtain ⟨cells, hwords⟩ := List.head?_eq_some_iff.mp hhead
    simp [hwords]

theorem rowsOf_of_isPassedOver (hpassed : IsPassedOver line) (of : Section)
    (before later : List Text) :
    rowsOf of (before ++ line :: later) = rowsOf of (before ++ later) := by
  simp [rowsOf, hpassed.row?_eq_none]

theorem sectionsOf_of_isPassedOver (hpassed : IsPassedOver line) (before later : List Text) :
    sectionsOf (before ++ line :: later) = sectionsOf (before ++ later) := by
  simp [sectionsOf, hpassed.row?_eq_none]

theorem unknownOf_of_isPassedOver (hpassed : IsPassedOver line) (before later : List Text) :
    unknownOf (before ++ line :: later) = unknownOf (before ++ later) := by
  simp [unknownOf, hpassed.unknown?_eq_none]

theorem widthsAgree_of_isPassedOver (hpassed : IsPassedOver line) (before later : List Text) :
    WidthsAgree (before ++ line :: later) ↔ WidthsAgree (before ++ later) := by
  simp only [WidthsAgree, rowsOf_of_isPassedOver hpassed]

theorem isMismatch_of_isPassedOver (hpassed : IsPassedOver line) (before later : List Text)
    {bad : Text} {of : Section} {names values : List Text} :
    IsMismatch (before ++ line :: later) bad of names values ↔
      IsMismatch (before ++ later) bad of names values := by
  simp only [IsMismatch, rowsOf_of_isPassedOver hpassed]

/-- The first mismatch stays the first one when a line that is passed over is taken out. -/
theorem exists_isMismatch_of_isPassedOver (hpassed : IsPassedOver line)
    {before later front back : List Text} {bad : Text} {of : Section} {names values : List Text}
    (hlines : before ++ line :: later = front ++ bad :: back) (hfront : WidthsAgree front)
    (hmismatch : IsMismatch front bad of names values) :
    ∃ front' back', before ++ later = front' ++ bad :: back' ∧ WidthsAgree front' ∧
      IsMismatch front' bad of names values ∧ unknownOf front' = unknownOf front := by
  have hbad : line ≠ bad := by
    rintro rfl
    have hrow := hmismatch.1
    rw [hpassed.row?_eq_none] at hrow
    cases hrow
  rcases List.append_eq_append_iff.mp hlines with ⟨between, rfl, hrest⟩ | ⟨between, rfl, hrest⟩
  · -- the line stands in front of the mismatch
    cases between with
    | nil => exact absurd (List.cons.inj hrest).1 hbad
    | cons first between =>
      obtain ⟨rfl, rfl⟩ := List.cons.inj hrest
      refine ⟨before ++ between, back, by simp, ?_, ?_, ?_⟩
      · exact (widthsAgree_of_isPassedOver hpassed before between).mp hfront
      · exact (isMismatch_of_isPassedOver hpassed before between).mp hmismatch
      · exact (unknownOf_of_isPassedOver hpassed before between).symm
  · -- the line stands behind the mismatch
    cases between with
    | nil => exact absurd (List.cons.inj hrest).1.symm hbad
    | cons first between =>
      obtain ⟨rfl, rfl⟩ := List.cons.inj hrest
      exact ⟨front, between ++ later, by simp, hfront, hmismatch, rfl⟩

end PassedOver

theorem map_words_warningsOf (content : Text) (lines : List Text) :
    (warningsOf content lines).map Warning.words = unknownOf lines := by
  simp [warningsOf, Function.comp_def]

/-- Without a line that is passed over a content has the same diagnosis in its own name. -/
theorem Diagnosis.of_isPassedOver {other : Text} {before later : List Text} {line : Text}
    {warnings : List Warning} {fault? : Option TableError} (hpassed : IsPassedOver line)
    (hlines : content.lines = before ++ line :: later) (hother : other.lines = before ++ later)
    (hdiagnosis : Diagnosis content warnings fault?) :
    ∃ warnings', Diagnosis other warnings' (fault?.map (TableError.within other)) ∧
      warnings'.map Warning.words = warnings.map Warning.words := by
  have hrows (of : Section) : rowsOf of content.lines = rowsOf of other.lines := by
    rw [hlines, hother, rowsOf_of_isPassedOver hpassed]
  have hsections : sectionsOf content.lines = sectionsOf other.lines := by
    rw [hlines, hother, sectionsOf_of_isPassedOver hpassed]
  have hagree : WidthsAgree content.lines ↔ WidthsAgree other.lines := by
    simp only [WidthsAgree, hrows]
  have hwords : (warningsOf other other.lines).map Warning.words =
      (warningsOf content content.lines).map Warning.words := by
    rw [map_words_warningsOf, map_words_warningsOf, hlines, hother,
      unknownOf_of_isPassedOver hpassed]
  cases hdiagnosis with
  | columnMismatch hsplit hfront hmismatch =>
    rw [hlines] at hsplit
    obtain ⟨front, back, hsplit', hfront', hmismatch', hunknown⟩ :=
      exists_isMismatch_of_isPassedOver hpassed hsplit hfront hmismatch
    refine ⟨_, .columnMismatch (hother.trans hsplit') hfront' hmismatch', ?_⟩
    rw [map_words_warningsOf, map_words_warningsOf, hunknown]
  | lineCount hwidths hfirst =>
    simp only [hrows, hsections] at hfirst ⊢
    exact ⟨_, .lineCount (hagree.mp hwidths) hfirst, hwords⟩
  | invalidValue hwidths hcounts hfirst hoffends =>
    simp only [OffendsIn, hrows, hsections] at hcounts hfirst hoffends
    exact ⟨_, .invalidValue (hagree.mp hwidths) hcounts hfirst hoffends, hwords⟩
  | sound hwidths hcounts hvalues =>
    simp only [OffendsIn, hrows, hsections] at hcounts hvalues
    exact ⟨_, .sound (hagree.mp hwidths) hcounts hvalues, hwords⟩

/-- Without a line that is passed over a content is read the same, in its own name. -/
theorem read_of_isPassedOver {other : Text} {before later : List Text} {line : Text}
    (hpassed : IsPassedOver line) (hlines : content.lines = before ++ line :: later)
    (hother : other.lines = before ++ later) :
    (Table.read other).warnings.map Warning.words =
        (Table.read content).warnings.map Warning.words ∧
      (Table.read other).table = (Table.read content).table.mapError (TableError.within other) := by
  obtain ⟨_, hdiagnosis, hwords⟩ :=
    (report_iff_diagnosis.mp ⟨rfl, rfl⟩).of_isPassedOver hpassed hlines hother
  obtain ⟨rfl, hfault⟩ := hdiagnosis.read
  refine ⟨hwords, ?_⟩
  cases htable : (Table.read content).table with
  | error fault =>
    rw [Reading.fault?_eq_some_iff.mpr htable] at hfault
    exact Reading.fault?_eq_some_iff.mp hfault
  | ok table =>
    rw [Table.read_eq_ok_iff, hlines] at htable
    simp only [rowsOf_of_isPassedOver hpassed, sectionsOf_of_isPassedOver hpassed] at htable
    rw [← hother] at htable
    exact (Table.read_eq_ok_iff other table).mpr htable

/-- Reading reports the fault and the warnings of the diagnosis, and no others. A number of lines
that is reported is never zero or two, and a line that is blank or under the header that is not
collected changes nothing: with or without it, the same warnings, fault or table come out. -/
theorem reports_diagnosis (content : Text) :
    (∀ warnings fault?,
        (Table.read content).warnings = warnings ∧ (Table.read content).fault? = fault? ↔
          Diagnosis content warnings fault?) ∧
      (∀ of count carried, (Table.read content).table = .error (.lineCount of count carried) →
        count ≠ 0 ∧ count ≠ 2) ∧
      ∀ other before line later, IsPassedOver line → content.lines = before ++ line :: later →
        other.lines = before ++ later →
          (Table.read other).warnings.map Warning.words =
              (Table.read content).warnings.map Warning.words ∧
            (Table.read other).table =
              (Table.read content).table.mapError (TableError.within other) :=
  ⟨fun _ _ ↦ report_iff_diagnosis, fun _ _ _ herror ↦ Table.lineCount_ne herror,
    fun _ _ _ _ hpassed hlines hother ↦ read_of_isPassedOver hpassed hlines hother⟩

/-- The unknown line in front of a mismatch is warned of, the one behind it is not, and the blank
line makes no difference. -/
theorem reports_mismatch_between_unknown_lines :
    Diagnosis "Foo: x\n\nTcp: A\nTcp: 1 2\nBar: y".toList
        [⟨["Foo:".toList, "x".toList], "Foo: x\n\nTcp: A\nTcp: 1 2\nBar: y".toList⟩]
        (some (.columnMismatch .tcp 1 2 "Foo: x\n\nTcp: A\nTcp: 1 2\nBar: y".toList)) ∧
      (Table.read "Foo: x\nTcp: A\nTcp: 1 2\nBar: y".toList).table =
        .error (.columnMismatch .tcp 1 2 "Foo: x\nTcp: A\nTcp: 1 2\nBar: y".toList) := by
  obtain ⟨hdiagnosis, -, hblank⟩ :=
    reports_diagnosis "Foo: x\n\nTcp: A\nTcp: 1 2\nBar: y".toList
  have hfault : (Table.read "Foo: x\n\nTcp: A\nTcp: 1 2\nBar: y".toList).fault? =
      some (.columnMismatch .tcp 1 2 "Foo: x\n\nTcp: A\nTcp: 1 2\nBar: y".toList) := by
    decide
  refine ⟨(hdiagnosis _ _).mp ⟨by decide, hfault⟩, ?_⟩
  obtain ⟨-, htable⟩ := hblank "Foo: x\nTcp: A\nTcp: 1 2\nBar: y".toList ["Foo: x".toList]
    [] ["Tcp: A".toList, "Tcp: 1 2".toList, "Bar: y".toList] (Or.inl rfl) (by decide) (by decide)
  rw [htable, Reading.fault?_eq_some_iff.mp hfault]
  rfl

end SocketMetrics.Netstat
