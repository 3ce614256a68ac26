import SocketMetrics.Proofs.Netstat.Format
import SocketMetrics.Proofs.Netstat.Metrics
/-!
# The order of the columns of a section

A section whose names are different may have its columns in any order. `Reorders of content other`
says that the other content is the content with the columns of one section in another order and all
other lines as they were. Then no value moves to another name (`Reorders.lastColumn_iff`), the same
fault is found in both, if there is one, with warnings about the same lines (`Reorders.diagnosis`),
and tables that are read have the same sections in the same order with the same values
(`Reorders.forall₂_sameValues`), so that they are written alike (`entries_eq_of_sameValues`).
-/

set_option autoImplicit false
set_option relaxedAutoImplicit false

namespace SocketMetrics.Netstat

open Channel Number Steps

/-! ### Contents that differ in the order of columns -/

/-- The lines are the same, or both stand under a header of the section, each with its cells. -/
inductive SameButCells (of : Section) : Text → Text → Prop where
  | same (line : Text) : SameButCells of line line
  | row {line other header : Text} {cells others : List Text}
      (hheader : Section.ofHeader? header = some of) (hline : line.words = header :: cells)
      (hother : other.words = header :: others) : SameButCells of line other

/-- The other content is the content with the columns of one section, whose names are different, in
another order. -/
structure Reorders (of : Section) (content other : Text) : Prop where
  lines : List.Forall₂ (SameButCells of) content.lines other.lines
  columns : ∃ entries entries' : List (Text × Text), entries.Perm entries' ∧
    (entries.map Prod.fst).Nodup ∧
    rowsOf of content.lines = [entries.map Prod.fst, entries.map Prod.snd] ∧
    rowsOf of other.lines = [entries'.map Prod.fst, entries'.map Prod.snd]

section SameButCells

variable {of : Section} {line other : Text}

theorem SameButCells.map_row? (hsame : SameButCells of line other) :
    (row? line).map Prod.fst = (row? other).map Prod.fst := by
  cases hsame with
  | same => rfl
  | row hheader hline hother =>
    rw [row?_eq_some_iff.mpr ⟨_, hline, hheader⟩, row?_eq_some_iff.mpr ⟨_, hother, hheader⟩]
    rfl

theorem SameButCells.unknown?_eq (hsame : SameButCells of line other) :
    unknown? line = unknown? other := by
  cases hsame with
  | same => rfl
  | row hheader hline hother =>
    rw [unknown?_of_row? (row?_eq_some_iff.mpr ⟨_, hline, hheader⟩),
      unknown?_of_row? (row?_eq_some_iff.mpr ⟨_, hother, hheader⟩)]

/-- A row of another section is the same line. -/
theorem SameButCells.eq_of_row? (hsame : SameButCells of line other) {found : Section}
    {cells : List Text} (hrow : row? line = some (found, cells)) (hfound : found ≠ of) :
    line = other := by
  cases hsame with
  | same => rfl
  | row hheader hline _ =>
    rw [row?_eq_some_iff.mpr ⟨_, hline, hheader⟩, Option.some.injEq, Prod.mk.injEq] at hrow
    exact absurd hrow.1.symm hfound

end SameButCells

section Lines

variable {of : Section} {lines others : List Text}
  (hlines : List.Forall₂ (SameButCells of) lines others)

include hlines

theorem sectionsOf_eq_of_sameButCells : sectionsOf lines = sectionsOf others :=
  congrArg List.eraseDups (filterMap_eq_of_forall₂ hlines fun _ _ hsame ↦ hsame.map_row?)

theorem unknownOf_eq_of_sameButCells : unknownOf lines = unknownOf others :=
  filterMap_eq_of_forall₂ hlines fun _ _ hsame ↦ hsame.unknown?_eq

theorem rowsOf_eq_of_sameButCells {found : Section} (hfound : found ≠ of) :
    rowsOf found lines = rowsOf found others := by
  refine filterMap_eq_of_forall₂ hlines fun line other hsame ↦ ?_
  cases hsame with
  | same => rfl
  | row hheader hline hother =>
    rw [row?_eq_some_iff.mpr ⟨_, hline, hheader⟩, row?_eq_some_iff.mpr ⟨_, hother, hheader⟩]
    simp [hfound.symm]

end Lines

namespace Reorders

variable {of : Section} {content other : Text} (hreorders : Reorders of content other)

include hreorders

theorem sectionsOf_eq : sectionsOf content.lines = sectionsOf other.lines :=
  sectionsOf_eq_of_sameButCells hreorders.lines

/-- The rows of a section are the same, or they are two with the same names, and the last columns of
these have the same values. -/
theorem rows_cases (found : Section) :
    rowsOf found content.lines = rowsOf found other.lines ∨
      ∃ names values names' values', rowsOf found content.lines = [names, values] ∧
        rowsOf found other.lines = [names', values'] ∧
        (∀ name, name ∈ names ↔ name ∈ names') ∧
        LastColumn names values = LastColumn names' values' := by
  by_cases hfound : found = of
  · subst hfound
    obtain ⟨entries, entries', hperm, hnodup, hrows, hrows'⟩ := hreorders.columns
    have hnames := hperm.map Prod.fst
    refine Or.inr ⟨_, _, _, _, hrows, hrows', fun _ ↦ hnames.mem_iff, ?_⟩
    funext name value
    rw [eq_iff_iff, lastColumn_map_iff_mem hnodup, hperm.mem_iff,
      lastColumn_map_iff_mem (hnames.nodup_iff.mp hnodup)]
  · exact Or.inl (rowsOf_eq_of_sameButCells hreorders.lines hfound)

theorem length_rowsOf (found : Section) :
    (rowsOf found content.lines).length = (rowsOf found other.lines).length := by
  rcases hreorders.rows_cases found with heq | ⟨_, _, _, _, hrows, hrows', -⟩
  · rw [heq]
  · rw [hrows, hrows']
    rfl

/-- The same values stand in the way of the correction. -/
theorem offendsIn_iff (found : Section) (counter raw : Text) :
    OffendsIn content.lines found counter raw ↔ OffendsIn other.lines found counter raw := by
  unfold OffendsIn
  rcases hreorders.rows_cases found with heq | ⟨_, _, _, _, hrows, hrows', -, hcolumns⟩
  · rw [heq]
  · simp only [hrows, hrows', List.cons.injEq, and_true]
    constructor
    · rintro ⟨_, _, ⟨rfl, rfl⟩, hoffends⟩
      exact ⟨_, _, ⟨rfl, rfl⟩, hcolumns ▸ hoffends⟩
    · rintro ⟨_, _, ⟨rfl, rfl⟩, hoffends⟩
      exact ⟨_, _, ⟨rfl, rfl⟩, hcolumns ▸ hoffends⟩

/-! ### The diagnosis -/

/-- Widths that agree in the lines up to some place agree there in the other content. -/
theorem widthsAgree {before before' later' : List Text} (hother : other.lines = before' ++ later')
    (hbefore : List.Forall₂ (SameButCells of) before before') (hwidths : WidthsAgree before) :
    WidthsAgree before' := by
  intro found names values more hrows
  by_cases hfound : found = of
  · subst hfound
    obtain ⟨entries, entries', -, -, -, hall⟩ := hreorders.columns
    rw [hother, rowsOf_append, hrows] at hall
    simp only [List.cons_append, List.cons.injEq] at hall
    rw [hall.1, hall.2.1, List.length_map, List.length_map]
  · rw [← rowsOf_eq_of_sameButCells hbefore hfound] at hrows
    exact hwidths found names values more hrows

/-- The columns of a section that is reordered have no mismatch. -/
theorem ne_of_isMismatch {before later : List Text} {line : Text} {found : Section}
    {names values : List Text} (hfront : content.lines = before ++ line :: later)
    (hmismatch : IsMismatch before line found names values) : found ≠ of := by
  rintro rfl
  obtain ⟨entries, _, -, -, hrows, -⟩ := hreorders.columns
  rw [hfront] at hrows
  exact hmismatch.length_ne hrows (by simp)

/-- The first mismatch of a content is that of the other content. -/
theorem exists_isMismatch {before later : List Text} {line : Text} {found : Section}
    {names values : List Text} (hfront : content.lines = before ++ line :: later)
    (hwidths : WidthsAgree before) (hmismatch : IsMismatch before line found names values) :
    ∃ before' later', other.lines = before' ++ line :: later' ∧ WidthsAgree before' ∧
      IsMismatch before' line found names values ∧ unknownOf before' = unknownOf before := by
  have hfound := hreorders.ne_of_isMismatch hfront hmismatch
  have hlines := hreorders.lines
  rw [hfront] at hlines
  obtain ⟨before', rest, hother, hbefore, hrest⟩ := exists_append_of_forall₂ hlines
  obtain ⟨line', later', hline, -, rfl⟩ := List.forall₂_cons_left_iff.mp hrest
  obtain rfl := hline.eq_of_row? hmismatch.1 hfound
  refine ⟨before', later', hother, hreorders.widthsAgree hother hbefore hwidths,
    ⟨hmismatch.1, ?_, hmismatch.2.2⟩, (unknownOf_eq_of_sameButCells hbefore).symm⟩
  rw [← rowsOf_eq_of_sameButCells hbefore hfound]
  exact hmismatch.2.1

/-- The other content has the same diagnosis in its own name. -/
theorem diagnosis {warnings : List Warning} {fault? : Option TableError}
    (hdiagnosis : Diagnosis content warnings fault?) :
    ∃ warnings', Diagnosis other warnings' (fault?.map (TableError.within other)) ∧
      warnings'.map Warning.words = warnings.map Warning.words := by
  have hwidths (hagree : WidthsAgree content.lines) : WidthsAgree other.lines :=
    hreorders.widthsAgree (List.append_nil _).symm hreorders.lines hagree
  have hwords : (warningsOf other other.lines).map Warning.words =
      (warningsOf content content.lines).map Warning.words := by
    rw [map_words_warningsOf, map_words_warningsOf, unknownOf_eq_of_sameButCells hreorders.lines]
  cases hdiagnosis with
  | columnMismatch hsplit hbefore hmismatch =>
    obtain ⟨before', later', hsplit', hbefore', hmismatch', hunknown⟩ :=
      hreorders.exists_isMismatch hsplit hbefore hmismatch
    refine ⟨_, .columnMismatch hsplit' hbefore' hmismatch', ?_⟩
    rw [map_words_warningsOf, map_words_warningsOf, hunknown]
  | lineCount hagree hfirst =>
    simp only [hreorders.length_rowsOf, hreorders.sectionsOf_eq] at hfirst ⊢
    exact ⟨_, .lineCount (hwidths hagree) hfirst, hwords⟩
  | invalidValue hagree hcounts hfirst hoffends =>
    simp only [hreorders.length_rowsOf, hreorders.sectionsOf_eq, hreorders.offendsIn_iff]
      at hcounts hfirst hoffends
    exact ⟨_, .invalidValue (hwidths hagree) hcounts hfirst hoffends, hwords⟩
  | sound hagree hcounts hvalues =>
    simp only [hreorders.length_rowsOf, hreorders.sectionsOf_eq, hreorders.offendsIn_iff]
      at hcounts hvalues
    exact ⟨_, .sound (hwidths hagree) hcounts hvalues, hwords⟩

/-- Reading the other content reports the same fault in its own name. -/
theorem fault?_eq :
    (Table.read other).fault? = (Table.read content).fault?.map (TableError.within other) ∧
      (Table.read other).warnings.map Warning.words =
        (Table.read content).warnings.map Warning.words := by
  obtain ⟨_, hdiagnosis, hwords⟩ := hreorders.diagnosis (report_iff_diagnosis.mp ⟨rfl, rfl⟩)
  obtain ⟨rfl, hfault⟩ := hdiagnosis.read
  exact ⟨hfault, hwords⟩

/-- One content can be read if and only if the other can. -/
theorem exists_read_iff :
    (∃ table, (Table.read content).table = .ok table) ↔
      ∃ table, (Table.read other).table = .ok table := by
  rw [← Reading.fault?_eq_none_iff, ← Reading.fault?_eq_none_iff, hreorders.fault?_eq.1,
    Option.map_eq_none_iff]

/-! ### Tables -/

/-- The same values are in force. -/
theorem inForce_iff {found : Section} {names values names' values' : List Text}
    (hrows : rowsOf found content.lines = [names, values])
    (hrows' : rowsOf found other.lines = [names', values']) (name raw : Text) :
    InForce names values name raw ↔ InForce names' values' name raw := by
  rcases hreorders.rows_cases found with heq | ⟨_, _, _, _, hall, hall', hnames, hcolumns⟩
  · rw [hrows, hrows'] at heq
    cases heq
    rfl
  · rw [hrows] at hall
    rw [hrows'] at hall'
    cases hall
    cases hall'
    simp only [InForce, OverflowCount, hcolumns, hnames]

end Reorders

/-- The sections are the same and have the same values. -/
structure Counters.SameValues (one other : Counters) : Prop where
  of_eq : one.of = other.of
  raw?_eq : ∀ name, one.raw? name = other.raw? name

/-- Tables read from contents that differ in the order of columns have the same sections in the same
order, with the same values. -/
theorem Reorders.forall₂_sameValues {of : Section} {content other : Text}
    (hreorders : Reorders of content other) {table table' : Table}
    (hread : (Table.read content).table = .ok table)
    (hread' : (Table.read other).table = .ok table') :
    List.Forall₂ Counters.SameValues table table' := by
  rw [Table.read_eq_ok_iff] at hread hread'
  rw [← hreorders.sectionsOf_eq] at hread'
  refine (exists_forall₂_iff.mp ⟨_, hread.flip, hread'⟩).imp fun one another hboth ↦ ?_
  obtain ⟨found, ⟨names, values, hrows, hlength, hcorrect⟩,
    ⟨names', values', hrows', hlength', hcorrect'⟩⟩ := hboth
  refine ⟨(of_correct hcorrect).trans (of_correct hcorrect').symm, fun name ↦ ?_⟩
  ext raw
  rw [raw?_of_correct hlength hcorrect, raw?_of_correct hlength' hcorrect',
    hreorders.inForce_iff hrows hrows']

/-- Tables with the same values are written alike. -/
theorem entries_eq_of_sameValues {table table' : Table}
    (hsame : List.Forall₂ Counters.SameValues table table') (timestamp : Int) :
    table.entries timestamp = table'.entries timestamp := by
  induction hsame with
  | nil => rfl
  | @cons one other rest rest' hcounters _ ih =>
    have hsection : one.entriesAt timestamp = other.entriesAt timestamp :=
      List.filterMap_congr fun counter _ ↦
        Counters.entry?_congr hcounters.of_eq (hcounters.raw?_eq counter.counter) timestamp
    rw [Table.entries, List.flatMap_cons, hsection]
    exact congrArg _ ih

end SocketMetrics.Netstat
