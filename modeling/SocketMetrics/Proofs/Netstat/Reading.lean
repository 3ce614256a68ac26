import SocketMetrics.Proofs.Netstat.Correction
import SocketMetrics.Proofs.Netstat.History
/-!
# What reading the protocol counter table gives

`Table.read_eq_ok_iff` describes every table that reading can return: its sections are those of the
content in the order of their first lines, each of them has two rows of one width, and its counters
are the columns of these rows after the correction. `Table.read_cases` describes all readings, the
failing ones included, by what the scan of the lines comes to.
-/

set_option autoImplicit false
set_option relaxedAutoImplicit false

namespace SocketMetrics.Netstat

open Steps

/-! ### The end of a scan -/

/-- A section is complete when it has two rows. -/
theorem Accumulator.finish_eq_ok_iff {of : Section} {rows : List (List Text)} {content : Text}
    {counters : Counters} :
    Accumulator.finish content ⟨of, .ofRows rows⟩ = .ok counters ↔
      ∃ names values, rows = [names, values] ∧ counters = ⟨of, columns names values⟩ := by
  match rows with
  | [] => simp [Accumulator.finish, Progress.ofRows]
  | [_] => simp [Accumulator.finish, Progress.ofRows]
  | [_, _] => simp [Accumulator.finish, Progress.ofRows, eq_comm]
  | _ :: _ :: _ :: _ =>
    simp [Accumulator.finish, Progress.ofRows]

/-- A section with another number of rows than two is refused with that number. -/
theorem Accumulator.finish_eq_error_iff {of : Section} {rows : List (List Text)} {content : Text}
    {error : TableError} :
    Accumulator.finish content ⟨of, .ofRows rows⟩ = .error error ↔
      rows.length ≠ 2 ∧ error = .lineCount of rows.length content := by
  match rows with
  | [] | [_] => simp [Accumulator.finish, Progress.ofRows, eq_comm]
  | [_, _] => simp [Accumulator.finish, Progress.ofRows]
  | _ :: _ :: _ :: _ => simp [Accumulator.finish, Progress.ofRows, eq_comm]

/-! ### Reading a content -/

/-- Reading goes through all lines and then closes the sections, or it stops at a mismatch. -/
theorem Table.read_cases (content : Text) :
    (∃ last : Scan, last.Follows content content.lines ∧
        (Table.read content).warnings = warningsOf content content.lines ∧
        (Table.read content).table = (do
          let sections ← last.accumulators.mapM (Accumulator.finish content)
          sections.mapM Counters.correct)) ∨
      ∃ before line later of names values, content.lines = before ++ line :: later ∧
        WidthsAgree before ∧ IsMismatch before line of names values ∧
        (Table.read content).warnings = warningsOf content before ∧
        (Table.read content).table =
          .error (.columnMismatch of names.length values.length content) := by
  unfold Table.read
  rcases (Scan.Follows.start content).lines content.lines with ⟨last, hlast, hfollows⟩ |
    ⟨before, line, later, of, names, values, hlines, hwidths, hmismatch, hfailed⟩
  · refine Or.inl ⟨last, hfollows, ?_, ?_⟩
    · rw [hlast]
      exact hfollows.warnings_eq
    · rw [hlast]
      rfl
  · refine Or.inr ⟨before, line, later, of, names, values, hlines, hwidths, hmismatch, ?_, ?_⟩
    · rw [hfailed]
      rfl
    · rw [hfailed]
      rfl

/-- The rows of a section behind a mismatch are not two of one width. -/
theorem IsMismatch.length_ne {before later : List Text} {line : Text} {of : Section}
    {names values first second : List Text} (hmismatch : IsMismatch before line of names values)
    (hrows : rowsOf of (before ++ line :: later) = [first, second]) :
    first.length ≠ second.length := by
  rw [hmismatch.rowsOf_eq later] at hrows
  simp only [List.cons.injEq] at hrows
  obtain ⟨rfl, rfl, -⟩ := hrows
  exact hmismatch.2.2

/-- The tables that reading returns: one section for each that has rows, in the order of their
first rows, with two rows of one width, and with the columns of these rows as its counters after
the correction. -/
theorem Table.read_eq_ok_iff (content : Text) (table : Table) :
    (Table.read content).table = .ok table ↔
      List.Forall₂ (fun of counters ↦ ∃ names values, rowsOf of content.lines = [names, values] ∧
          names.length = values.length ∧
          Counters.correct ⟨of, columns names values⟩ = .ok counters)
        (sectionsOf content.lines) table := by
  rcases Table.read_cases content with ⟨last, hfollows, -, htable⟩ |
    ⟨before, line, later, of, names, values, hlines, -, hmismatch, -, htable⟩
  · rw [htable, bind_eq_ok_iff]
    simp only [mapM_eq_ok_iff_forall₂]
    rw [exists_forall₂_iff, hfollows.accumulators_eq, List.forall₂_map_left_iff]
    constructor
    · refine List.Forall₂.imp ?_
      rintro of counters ⟨middle, hfinish, hcorrect⟩
      obtain ⟨names, values, hrows, rfl⟩ := Accumulator.finish_eq_ok_iff.mp hfinish
      exact ⟨names, values, hrows, hfollows.length_eq of names values [] hrows, hcorrect⟩
    · refine List.Forall₂.imp ?_
      rintro of counters ⟨names, values, hrows, -, hcorrect⟩
      exact ⟨_, Accumulator.finish_eq_ok_iff.mpr ⟨names, values, hrows, rfl⟩, hcorrect⟩
  · constructor
    · rw [htable]
      intro hok
      cases hok
    · intro hall
      have hof : of ∈ sectionsOf content.lines := by
        rw [mem_sectionsOf, hlines]
        exact ⟨line, by simp, values, hmismatch.1⟩
      obtain ⟨place, hplace, hget⟩ := List.mem_iff_getElem.mp hof
      obtain ⟨first, second, hrows, hwidth, -⟩ := hall.get hplace (hall.length_eq ▸ hplace)
      rw [List.get_eq_getElem, hget, hlines] at hrows
      exact absurd hwidth (hmismatch.length_ne hrows)

/-- The sections of a table stand in the order of their first rows. -/
theorem map_of_eq_sectionsOf {content : Text} {table : Table}
    (hread : (Table.read content).table = .ok table) :
    table.map Counters.of = sectionsOf content.lines := by
  rw [Table.read_eq_ok_iff] at hread
  rw [← List.forall₂_eq_eq_eq, List.forall₂_map_left_iff]
  refine hread.flip.imp fun counters of hrows ↦ ?_
  obtain ⟨names, values, -, -, hcorrect⟩ := hrows
  exact of_correct hcorrect

/-- A table has every section once. -/
theorem nodup_map_of {content : Text} {table : Table}
    (hread : (Table.read content).table = .ok table) : (table.map Counters.of).Nodup := by
  rw [map_of_eq_sectionsOf hread]
  exact nodup_sectionsOf content.lines

/-- A success comes with the warnings about all lines. -/
theorem Table.read_of_ok {content : Text} {table : Table}
    (hok : (Table.read content).table = .ok table) :
    (Table.read content).warnings = warningsOf content content.lines := by
  rcases Table.read_cases content with ⟨last, -, hwarnings, -⟩ |
    ⟨before, line, later, of, names, values, -, -, -, -, htable⟩
  · exact hwarnings
  · rw [htable] at hok
    cases hok

end SocketMetrics.Netstat
