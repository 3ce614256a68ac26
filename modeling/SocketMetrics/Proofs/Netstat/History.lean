import Mathlib.Data.List.Induction
import SocketMetrics.Netstat.Table
/-!
# What a scan of the protocol counter table remembers

The lines that have been read are all there is to the state of a scan. For a list of lines,
`rowsOf` gives the lines of one section without their headers, `sectionsOf` the sections that have
any, in the order of their first lines, and `unknownOf` the lines under unknown headers.
`Scan.Follows` says that a scan has exactly the state that these determine: one accumulator for
each section, as far as the rows of the section bring it, an index that knows the same sections,
and one warning for each unknown line. `Scan.Follows.line` is the step: a line is refused if and
only if it is the second one of its section and differs in width from the first (`IsMismatch`),
and any other line keeps the state in step. `Scan.Follows.lines` is the whole run.
-/

set_option autoImplicit false
set_option relaxedAutoImplicit false

namespace SocketMetrics.Netstat

/-! ### The lines of a content -/

/-- The section of a line under a known header, with the words behind the header. -/
def row? (line : Text) : Option (Section × List Text) :=
  match line.words with
  | [] => none
  | header :: cells => (Section.ofHeader? header).map fun of ↦ (of, cells)

/-- The words of a line under an unknown header. -/
def unknown? (line : Text) : Option (List Text) :=
  match line.words with
  | [] => none
  | header :: cells =>
    if header = unsupportedHeader ∨ Section.ofHeader? header ≠ none then none
    else some (header :: cells)

/-- The lines of one section, without their headers. -/
def rowsOf (of : Section) (lines : List Text) : List (List Text) :=
  lines.filterMap fun line ↦
    (row? line).bind fun row ↦ if row.1 = of then some row.2 else none

/-- The sections that have lines, in the order of their first ones. -/
def sectionsOf (lines : List Text) : List Section :=
  (lines.filterMap fun line ↦ (row? line).map Prod.fst).eraseDups

/-- The words of the lines under unknown headers. -/
def unknownOf (lines : List Text) : List (List Text) :=
  lines.filterMap unknown?

/-- The warnings about the lines of a content. -/
def warningsOf (content : Text) (lines : List Text) : List Warning :=
  (unknownOf lines).map fun words ↦ ⟨words, content⟩

theorem ofHeader?_unsupportedHeader : Section.ofHeader? unsupportedHeader = none := by
  decide

/-- A line is a row of a section when its first word is a header of that section. -/
theorem row?_eq_some_iff {line : Text} {of : Section} {cells : List Text} :
    row? line = some (of, cells) ↔
      ∃ header, line.words = header :: cells ∧ Section.ofHeader? header = some of := by
  unfold row?
  cases hwords : line.words with
  | nil => simp
  | cons header others =>
    simp only [Option.map_eq_some_iff, Prod.mk.injEq, List.cons.injEq]
    constructor
    · rintro ⟨found, hfound, rfl, rfl⟩
      exact ⟨header, ⟨rfl, rfl⟩, hfound⟩
    · rintro ⟨_, ⟨rfl, rfl⟩, hfound⟩
      exact ⟨of, hfound, rfl, rfl⟩

/-- A row of a section is not an unknown line. -/
theorem unknown?_of_row? {line : Text} {row : Section × List Text} (hrow : row? line = some row) :
    unknown? line = none := by
  obtain ⟨header, hwords, hfound⟩ := row?_eq_some_iff.mp hrow
  simp [unknown?, hwords, hfound]

@[simp] theorem rowsOf_nil (of : Section) : rowsOf of [] = [] := rfl

@[simp] theorem rowsOf_append (of : Section) (first second : List Text) :
    rowsOf of (first ++ second) = rowsOf of first ++ rowsOf of second :=
  List.filterMap_append ..

theorem rowsOf_singleton_of_row? {line : Text} {of : Section} {cells : List Text}
    (hrow : row? line = some (of, cells)) (other : Section) :
    rowsOf other [line] = if of = other then [cells] else [] := by
  by_cases hof : of = other <;> simp [rowsOf, hrow, hof]

theorem rowsOf_singleton_of_row?_eq_none {line : Text} (hrow : row? line = none)
    (of : Section) : rowsOf of [line] = [] := by
  simp [rowsOf, hrow]

theorem mem_sectionsOf {of : Section} {lines : List Text} :
    of ∈ sectionsOf lines ↔ ∃ line ∈ lines, ∃ cells, row? line = some (of, cells) := by
  simp only [sectionsOf, List.mem_eraseDups, List.mem_filterMap, Option.map_eq_some_iff]
  constructor
  · rintro ⟨line, hline, ⟨_, cells⟩, hrow, rfl⟩
    exact ⟨line, hline, cells, hrow⟩
  · rintro ⟨line, hline, cells, hrow⟩
    exact ⟨line, hline, (of, cells), hrow, rfl⟩

/-- The sections are those that have rows. -/
theorem mem_sectionsOf_iff_rowsOf_ne_nil {of : Section} {lines : List Text} :
    of ∈ sectionsOf lines ↔ rowsOf of lines ≠ [] := by
  rw [mem_sectionsOf, ne_eq, rowsOf, List.filterMap_eq_nil_iff]
  push Not
  refine exists_congr fun line ↦ and_congr_right fun _ ↦ ?_
  cases hrow : row? line with
  | none => simp
  | some row => obtain ⟨other, cells⟩ := row; simp [Prod.ext_iff]

/-- A further row adds its section unless that has been met before. -/
theorem sectionsOf_append_of_row? {lines : List Text} {line : Text} {of : Section}
    {cells : List Text} (hrow : row? line = some (of, cells)) :
    sectionsOf (lines ++ [line]) =
      sectionsOf lines ++ if of ∈ sectionsOf lines then [] else [of] := by
  have hmem : of ∈ sectionsOf lines ↔
      of ∈ lines.filterMap fun line ↦ (row? line).map Prod.fst := by
    simp [sectionsOf, List.mem_eraseDups]
  rw [sectionsOf, List.filterMap_append, List.eraseDups_append, ← sectionsOf]
  by_cases hof : of ∈ sectionsOf lines
  · simp [hrow, hof, List.removeAll, hmem.mp hof]
  · simp [hrow, hof, List.removeAll, mt hmem.mpr hof, List.eraseDups_cons]

theorem sectionsOf_append_of_row?_eq_none {line : Text} (hrow : row? line = none)
    (lines : List Text) : sectionsOf (lines ++ [line]) = sectionsOf lines := by
  simp [sectionsOf, hrow]

/-! ### Order of appearance -/

/-- The number of lines in front of the first line of a section. -/
def firstRow (of : Section) (lines : List Text) : ℕ :=
  lines.findIdx fun line ↦ ((row? line).map Prod.fst) == some of

/-- The first row of a section that has any lies among the lines. -/
theorem firstRow_lt_length {of : Section} {lines : List Text} (hof : of ∈ sectionsOf lines) :
    firstRow of lines < lines.length := by
  obtain ⟨line, hline, cells, hrow⟩ := mem_sectionsOf.mp hof
  exact List.findIdx_lt_length_of_exists ⟨line, hline, by simp [hrow]⟩

/-- Lines behind the first row of a section do not move it. -/
theorem firstRow_append_of_mem {of : Section} {lines : List Text} (hof : of ∈ sectionsOf lines)
    (later : List Text) : firstRow of (lines ++ later) = firstRow of lines := by
  have hlt := firstRow_lt_length hof
  unfold firstRow at hlt ⊢
  rw [List.findIdx_append, if_pos hlt]

/-- The sections are listed in the order of their first rows. -/
theorem pairwise_firstRow_sectionsOf (lines : List Text) :
    (sectionsOf lines).Pairwise fun first second ↦ firstRow first lines < firstRow second lines := by
  induction lines using List.reverseRecOn with
  | nil => simp [sectionsOf]
  | append_singleton lines line ih =>
    have hkept : (sectionsOf lines).Pairwise fun first second ↦
        firstRow first (lines ++ [line]) < firstRow second (lines ++ [line]) :=
      ih.imp_of_mem fun hfirst hsecond hlt ↦ by
        rwa [firstRow_append_of_mem hfirst, firstRow_append_of_mem hsecond]
    cases hrow : row? line with
    | none => rwa [sectionsOf_append_of_row?_eq_none hrow]
    | some row =>
      obtain ⟨of, cells⟩ := row
      rw [sectionsOf_append_of_row? hrow]
      by_cases hof : of ∈ sectionsOf lines
      · simpa [hof] using hkept
      · rw [if_neg hof, List.pairwise_append]
        refine ⟨hkept, List.pairwise_singleton _ _, fun other hother same hsame ↦ ?_⟩
        rw [List.mem_singleton.mp hsame, firstRow_append_of_mem hother]
        refine Nat.lt_of_lt_of_le (firstRow_lt_length hother) ?_
        have hnone : ∀ earlier ∈ lines, ((row? earlier).map Prod.fst == some of) = false := by
          intro earlier hearlier
          by_contra hfound
          simp only [Bool.not_eq_false, beq_iff_eq, Option.map_eq_some_iff] at hfound
          obtain ⟨⟨_, others⟩, hothers, rfl⟩ := hfound
          exact hof (mem_sectionsOf.mpr ⟨earlier, hearlier, others, hothers⟩)
        unfold firstRow
        rw [List.findIdx_append, List.findIdx_eq_length.mpr hnone, if_neg (Nat.lt_irrefl _)]
        exact Nat.le_add_left _ _

/-- No section is listed twice. -/
theorem nodup_sectionsOf (lines : List Text) : (sectionsOf lines).Nodup := by
  refine (pairwise_firstRow_sectionsOf lines).imp ?_
  intro first second hlt heq
  rw [heq] at hlt
  exact Nat.lt_irrefl _ hlt

/-! ### The state after some lines -/

/-- How far its rows bring a section. -/
def Progress.ofRows : List (List Text) → Progress
  | [names] => .named names
  | [names, values] => .complete (columns names values)
  | rows => .overfull rows.length

/-- A line is the second row of its section and not as wide as the first. -/
def IsMismatch (seen : List Text) (line : Text) (of : Section) (names values : List Text) : Prop :=
  row? line = some (of, values) ∧ rowsOf of seen = [names] ∧ names.length ≠ values.length

/-- The rows of a section behind a mismatch begin with the two that do not fit. -/
theorem IsMismatch.rowsOf_eq {before : List Text} {line : Text} {of : Section}
    {names values : List Text} (hmismatch : IsMismatch before line of names values)
    (later : List Text) :
    rowsOf of (before ++ line :: later) = names :: values :: rowsOf of later := by
  obtain ⟨hrow, hnames, -⟩ := hmismatch
  rw [List.append_cons, rowsOf_append, rowsOf_append, hnames, rowsOf_singleton_of_row? hrow,
    if_pos rfl]
  rfl

/-- The first two rows of every section have one width. -/
def WidthsAgree (lines : List Text) : Prop :=
  ∀ of names values later, rowsOf of lines = names :: values :: later →
    names.length = values.length

/-- The state of a scan is the one that the lines seen so far determine. -/
structure Scan.Follows (content : Text) (seen : List Text) (scan : Scan) : Prop where
  accumulators_eq : scan.accumulators =
    (sectionsOf seen).map fun of ↦ ⟨of, .ofRows (rowsOf of seen)⟩
  lookup_eq_none_iff : ∀ of, scan.index.lookup of = none ↔ of ∉ sectionsOf seen
  warnings_eq : scan.warnings = warningsOf content seen
  length_eq : WidthsAgree seen

/-- Another row brings a section one row further, unless it differs in width. -/
theorem Accumulator.advance_ofRows {of : Section} {rows : List (List Text)} (content : Text)
    (cells : List Text) (hrows : rows ≠ [])
    (hwidth : ∀ names, rows = [names] → names.length = cells.length) :
    Accumulator.advance ⟨of, .ofRows rows⟩ content cells = .ok (.ofRows (rows ++ [cells])) := by
  match rows, hrows with
  | [names], _ => simp [Accumulator.advance, Progress.ofRows, hwidth names rfl, pure, Except.pure]
  | [names, values], _ => simp [Accumulator.advance, Progress.ofRows, pure, Except.pure]
  | _ :: _ :: _ :: _, _ => simp [Accumulator.advance, Progress.ofRows, pure, Except.pure]

/-- The second row of a section is refused when it differs in width. -/
theorem Accumulator.advance_of_mismatch {of : Section} {names cells : List Text}
    (content : Text) (hwidth : names.length ≠ cells.length) :
    Accumulator.advance ⟨of, .ofRows [names]⟩ content cells =
      .error (.columnMismatch of names.length cells.length content) := by
  simp [Accumulator.advance, Progress.ofRows, hwidth, throw, throwThe, MonadExceptOf.throw]

/-! ### One step of a scan -/

theorem Scan.line_of_row? {line : Text} {of : Section} {cells : List Text}
    (hrow : row? line = some (of, cells)) (content : Text) (scan : Scan) :
    scan.line content line = scan.row content of cells := by
  obtain ⟨header, hwords, hfound⟩ := row?_eq_some_iff.mp hrow
  have hheader : header ≠ unsupportedHeader := by
    rintro rfl
    simp [ofHeader?_unsupportedHeader] at hfound
  simp only [Scan.line, hwords, if_neg hheader, hfound]

theorem Scan.line_of_row?_eq_none {line : Text} (hrow : row? line = none) (content : Text)
    (scan : Scan) :
    scan.line content line =
      .ok (match unknown? line with
        | some words => scan.warn ⟨words, content⟩
        | none => scan) := by
  unfold row? at hrow
  unfold Scan.line unknown?
  cases hwords : line.words with
  | nil => rfl
  | cons header cells =>
    rw [hwords] at hrow
    have hfound : Section.ofHeader? header = none := by simpa using hrow
    by_cases hheader : header = unsupportedHeader
    · simp [hheader, pure, Except.pure]
    · simp [hheader, hfound, pure, Except.pure]

/-- A line that is no row changes the warnings at most. -/
theorem Scan.Follows.line_of_row?_eq_none {content : Text} {seen : List Text} {scan : Scan}
    (hscan : scan.Follows content seen) {line : Text} (hrow : row? line = none) :
    ∃ next, scan.line content line = .ok next ∧ next.Follows content (seen ++ [line]) := by
  refine ⟨_, Scan.line_of_row?_eq_none hrow content scan, ?_⟩
  have hrows : ∀ of, rowsOf of (seen ++ [line]) = rowsOf of seen := fun of ↦ by
    rw [rowsOf_append, rowsOf_singleton_of_row?_eq_none hrow, List.append_nil]
  constructor
  · rw [sectionsOf_append_of_row?_eq_none hrow]
    simp only [hrows]
    cases unknown? line <;> exact hscan.accumulators_eq
  · rw [sectionsOf_append_of_row?_eq_none hrow]
    cases unknown? line <;> exact hscan.lookup_eq_none_iff
  · have hwarnings := hscan.warnings_eq
    cases hunknown : unknown? line with
    | none => simpa [warningsOf, unknownOf, hunknown] using hwarnings
    | some words => simp [Scan.warn, hwarnings, warningsOf, unknownOf, hunknown]
  · simpa only [WidthsAgree, hrows] using hscan.length_eq

/-- The first row of a section opens an accumulator. -/
theorem Scan.Follows.introduce {content : Text} {seen : List Text} {scan : Scan}
    (hscan : scan.Follows content seen) {line : Text} {of : Section} {names : List Text}
    (hrow : row? line = some (of, names)) (hof : of ∉ sectionsOf seen) :
    (scan.introduce of names).Follows content (seen ++ [line]) := by
  have hsections : sectionsOf (seen ++ [line]) = sectionsOf seen ++ [of] := by
    rw [sectionsOf_append_of_row? hrow, if_neg hof]
  have hempty : rowsOf of seen = [] := by
    by_contra hrows
    exact hof (mem_sectionsOf_iff_rowsOf_ne_nil.mpr hrows)
  constructor
  · change scan.accumulators ++ [⟨of, .named names⟩] = _
    rw [hsections, List.map_append, hscan.accumulators_eq]
    congr 1
    · refine List.map_congr_left fun other hother ↦ ?_
      have hother : of ≠ other := fun heq ↦ hof (heq ▸ hother)
      rw [rowsOf_append, rowsOf_singleton_of_row? hrow, if_neg hother, List.append_nil]
    · simp [rowsOf_singleton_of_row? hrow, hempty, Progress.ofRows]
  · intro other
    change ((of, scan.accumulators.length) :: scan.index).lookup other = none ↔ _
    rw [hsections, List.mem_append, List.mem_singleton, List.lookup_cons]
    by_cases hother : other = of
    · simp [hother]
    · simpa [hother, beq_false_of_ne hother] using hscan.lookup_eq_none_iff other
  · have hunknown := unknown?_of_row? hrow
    simp [Scan.introduce, hscan.warnings_eq, warningsOf, unknownOf, hunknown]
  · intro other first second later hrows
    rw [rowsOf_append, rowsOf_singleton_of_row? hrow] at hrows
    by_cases hother : of = other
    · subst hother
      simp [hempty] at hrows
    · rw [if_neg hother, List.append_nil] at hrows
      exact hscan.length_eq other first second later hrows

/-- A further row brings the accumulator of its section one row further. -/
theorem Scan.Follows.record {content : Text} {seen : List Text} {scan : Scan}
    (hscan : scan.Follows content seen) {line : Text} {of : Section} {cells : List Text}
    (hrow : row? line = some (of, cells)) {position : ℕ}
    (hposition : scan.index.lookup of = some position)
    (hwidth : ∀ names, rowsOf of seen = [names] → names.length = cells.length) :
    (scan.record position (.ofRows (rowsOf of seen ++ [cells]))).Follows content
      (seen ++ [line]) := by
  have hof : of ∈ sectionsOf seen := by
    by_contra hnot
    rw [(hscan.lookup_eq_none_iff of).mpr hnot] at hposition
    simp at hposition
  have hsections : sectionsOf (seen ++ [line]) = sectionsOf seen := by
    rw [sectionsOf_append_of_row? hrow, if_pos hof, List.append_nil]
  constructor
  · have hplace : (sectionsOf seen)[position]? = some of := by
      have hfound := scan.of_accumulator of position hposition
      rwa [hscan.accumulators_eq, List.getElem?_map, Option.map_map, Function.comp_def,
        Option.map_id'] at hfound
    change scan.accumulators.modify position _ = _
    rw [hsections, hscan.accumulators_eq]
    refine List.ext_getElem? fun place ↦ ?_
    rw [List.getElem?_modify, List.getElem?_map, List.getElem?_map]
    cases hother : (sectionsOf seen)[place]? with
    | none => rfl
    | some other =>
      -- The sections are distinct, so the position is that of no other section.
      have hsame : position = place ↔ of = other := by
        constructor
        · rintro rfl
          exact Option.some.inj (hplace.symm.trans hother)
        · rintro rfl
          have hinside := (List.getElem?_eq_some_iff.mp hplace).1
          exact (List.getElem?_inj hinside (nodup_sectionsOf seen)).mp
            (hplace.trans hother.symm)
      by_cases hof : of = other
      · simp [hsame.mpr hof, hof, rowsOf_singleton_of_row? hrow]
      · simp [mt hsame.mp hof, hof, rowsOf_singleton_of_row? hrow]
  · rw [hsections]
    exact hscan.lookup_eq_none_iff
  · have hunknown := unknown?_of_row? hrow
    simp [Scan.record, hscan.warnings_eq, warningsOf, unknownOf, hunknown]
  · intro other first second later hrows
    rw [rowsOf_append, rowsOf_singleton_of_row? hrow] at hrows
    by_cases hother : of = other
    · subst hother
      rw [if_pos rfl] at hrows
      -- The new row is the second one, or the first two have stood before.
      match hseen : rowsOf of seen, hrows with
      | [], hrows => simp at hrows
      | [names], hrows =>
        simp only [List.cons_append, List.nil_append, List.cons.injEq] at hrows
        rw [← hrows.1, ← hrows.2.1]
        exact hwidth names hseen
      | names :: values :: others, hrows =>
        simp only [List.cons_append, List.cons.injEq] at hrows
        rw [← hrows.1, ← hrows.2.1]
        exact hscan.length_eq of names values others hseen
    · rw [if_neg hother, List.append_nil] at hrows
      exact hscan.length_eq other first second later hrows

/-- The accumulator that the index finds holds the rows of its section. -/
theorem Scan.Follows.get_eq {content : Text} {seen : List Text} {scan : Scan}
    (hscan : scan.Follows content seen) {of : Section} {position : ℕ}
    (hposition : scan.index.lookup of = some position)
    (hinside : position < scan.accumulators.length) :
    scan.accumulators.get ⟨position, hinside⟩ = ⟨of, .ofRows (rowsOf of seen)⟩ := by
  have hall : ∀ accumulator ∈ scan.accumulators,
      accumulator = ⟨accumulator.of, .ofRows (rowsOf accumulator.of seen)⟩ := by
    rw [hscan.accumulators_eq]
    simp
  have hof := scan.of_accumulator of position hposition
  rw [List.getElem?_eq_getElem hinside, Option.map_some, Option.some.injEq] at hof
  rw [hall _ (List.get_mem scan.accumulators ⟨position, hinside⟩), List.get_eq_getElem, hof]

/-- A scan takes in every line but the second row of a section that differs in width from the
first, and it stays in step with the lines. -/
theorem Scan.Follows.line {content : Text} {seen : List Text} {scan : Scan}
    (hscan : scan.Follows content seen) (line : Text) :
    (∃ next, scan.line content line = .ok next ∧ next.Follows content (seen ++ [line])) ∨
      ∃ of names values, IsMismatch seen line of names values ∧
        scan.line content line =
          .error (.columnMismatch of names.length values.length content) := by
  cases hrow : row? line with
  | none => exact Or.inl (hscan.line_of_row?_eq_none hrow)
  | some row =>
    obtain ⟨of, cells⟩ := row
    rw [Scan.line_of_row? hrow, Scan.row]
    split
    · next hnone =>
      exact Or.inl ⟨_, rfl, hscan.introduce hrow ((hscan.lookup_eq_none_iff of).mp hnone)⟩
    · next position hposition =>
      have hrows : rowsOf of seen ≠ [] := by
        rw [← mem_sectionsOf_iff_rowsOf_ne_nil]
        by_contra hnot
        simp [(hscan.lookup_eq_none_iff of).mpr hnot] at hposition
      rw [hscan.get_eq hposition]
      dsimp only
      by_cases hwidth : ∀ names, rowsOf of seen = [names] → names.length = cells.length
      · rw [Accumulator.advance_ofRows content cells hrows hwidth]
        exact Or.inl ⟨_, rfl, hscan.record hrow hposition hwidth⟩
      · push Not at hwidth
        obtain ⟨names, hnames, hlength⟩ := hwidth
        rw [hnames, Accumulator.advance_of_mismatch content hlength]
        exact Or.inr ⟨of, names, cells, ⟨hrow, hnames, hlength⟩, rfl⟩

theorem Scan.Follows.start (content : Text) : Scan.start.Follows content [] :=
  ⟨rfl, fun _ ↦ by simp [Scan.start, sectionsOf], rfl, fun _ _ _ _ hrows ↦ by simp at hrows⟩

/-- A scan goes through all lines, or up to the first mismatch. -/
theorem Scan.Follows.lines {content : Text} {seen : List Text} {scan : Scan}
    (hscan : scan.Follows content seen) (lines : List Text) :
    (∃ last, scan.lines content lines = (last.warnings, .ok last) ∧
        last.Follows content (seen ++ lines)) ∨
      ∃ before line later of names values, lines = before ++ line :: later ∧
        WidthsAgree (seen ++ before) ∧ IsMismatch (seen ++ before) line of names values ∧
        scan.lines content lines = (warningsOf content (seen ++ before),
          .error (.columnMismatch of names.length values.length content)) := by
  induction lines generalizing seen scan with
  | nil => exact Or.inl ⟨scan, rfl, by simpa using hscan⟩
  | cons line rest ih =>
    rcases hscan.line line with ⟨next, hnext, hfollows⟩ | ⟨of, names, values, hmismatch, hrefused⟩
    · rcases ih hfollows with ⟨last, hlast, hall⟩ |
        ⟨before, bad, later, of, names, values, hrest, hwidths, hmismatch, hfailed⟩
      · refine Or.inl ⟨last, ?_, by simpa using hall⟩
        rw [Scan.lines, hnext]
        exact hlast
      · refine Or.inr ⟨line :: before, bad, later, of, names, values, by rw [hrest]; rfl,
          by simpa using hwidths, by simpa using hmismatch, ?_⟩
        rw [Scan.lines, hnext]
        simpa using hfailed
    · refine Or.inr ⟨[], line, rest, of, names, values, rfl, by simpa using hscan.length_eq,
        by simpa using hmismatch, ?_⟩
      rw [Scan.lines, hrefused, List.append_nil, hscan.warnings_eq]
      rfl

end SocketMetrics.Netstat
