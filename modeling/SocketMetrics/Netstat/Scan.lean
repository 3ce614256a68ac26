import SocketMetrics.Netstat.Counters
import SocketMetrics.Text.Blank
/-!
Going through the lines of the protocol counter table. `Scan` keeps one accumulator for each
section met so far, in the order of their first lines, and an index that finds the accumulator of
a section; that the index finds the right one is part of the structure. A line under the header
that is not collected is passed over in silence, and a line under an unknown header with a warning.
-/

set_option autoImplicit false
set_option relaxedAutoImplicit false

namespace SocketMetrics.Netstat

open Number

/-- A line that was passed over because its header is unknown, as its words. -/
structure Warning where
  words : List Text
  content : Text
deriving DecidableEq, Repr

/-- The message for a line that was passed over. -/
def Warning.message (warning : Warning) : Text :=
  "Unrecognized line in /proc/net/netstat: ".toList ++ Text.quoteList warning.words
    ++ " (file=".toList ++ warning.content.quote ++ [')']

/-- How much of a section has been seen. -/
inductive Progress where
  /-- The line of names has been seen. -/
  | named (names : List Text)
  /-- Both lines have been seen; of several entries of one name the first is in force. -/
  | complete (entries : List (Text × Text))
  /-- More lines than two have been seen. -/
  | overfull (lines : Nat)
deriving DecidableEq, Repr

/-- The entries of a line of names and a line of values: the last column of a name is the one in
force. -/
def columns (names values : List Text) : List (Text × Text) :=
  (names.zip values).reverse

/-- What has been collected of one section. -/
structure Accumulator where
  of : Section
  progress : Progress
deriving DecidableEq, Repr

namespace Accumulator

/-- How far the section is after another of its lines. The second line has to be as wide as the
first. -/
def advance (accumulator : Accumulator) (content : Text) (cells : List Text) :
    Except TableError Progress :=
  match accumulator.progress with
  | .named names =>
    if names.length = cells.length then pure (.complete (columns names cells))
    else throw (.columnMismatch accumulator.of names.length cells.length content)
  | .complete _ => pure (.overfull 3)
  | .overfull lines => pure (.overfull (lines + 1))

/-- The counters of the section when all lines have been seen. -/
def finish (content : Text) (accumulator : Accumulator) : Except TableError Counters :=
  match accumulator.progress with
  | .named _ => throw (.lineCount accumulator.of 1 content)
  | .complete entries => pure ⟨accumulator.of, entries⟩
  | .overfull lines => throw (.lineCount accumulator.of lines content)

end Accumulator

/-- The state of a reading between two lines. -/
structure Scan where
  /-- One accumulator a section, in the order of their first lines. -/
  accumulators : List Accumulator
  /-- The position of the accumulator of every section met so far. -/
  index : List (Section × Nat)
  warnings : List Warning
  of_accumulator : ∀ of position, index.lookup of = some position →
    (accumulators[position]?).map Accumulator.of = some of

namespace Scan

/-- The state in front of the first line. -/
def start : Scan where
  accumulators := []
  index := []
  warnings := []
  of_accumulator := by simp

/-- The position of a section lies among the accumulators. -/
theorem position_lt (scan : Scan) {of : Section} {position : Nat}
    (hposition : scan.index.lookup of = some position) : position < scan.accumulators.length := by
  have hfound := scan.of_accumulator of position hposition
  rcases Nat.lt_or_ge position scan.accumulators.length with hinside | houtside
  · exact hinside
  · simp [List.getElem?_eq_none houtside] at hfound

/-- Adds a warning. -/
def warn (scan : Scan) (warning : Warning) : Scan :=
  { scan with warnings := scan.warnings ++ [warning] }

/-- Begins a section with its line of names. -/
def introduce (scan : Scan) (of : Section) (names : List Text) : Scan where
  accumulators := scan.accumulators ++ [⟨of, .named names⟩]
  index := (of, scan.accumulators.length) :: scan.index
  warnings := scan.warnings
  of_accumulator := by
    intro other position hposition
    rw [List.lookup_cons] at hposition
    by_cases hother : other = of
    · subst hother
      simp only [beq_self_eq_true, Option.some.injEq] at hposition
      simp [← hposition]
    · rw [beq_false_of_ne hother] at hposition
      rw [List.getElem?_append_left (scan.position_lt hposition)]
      exact scan.of_accumulator other position hposition

/-- Records how far the section at a position is. -/
def record (scan : Scan) (position : Nat) (progress : Progress) : Scan where
  accumulators := scan.accumulators.modify position fun accumulator ↦ { accumulator with progress }
  index := scan.index
  warnings := scan.warnings
  of_accumulator := by
    intro of other hother
    have hof := scan.of_accumulator of other hother
    rw [List.getElem?_modify, Option.map_eq_map, Option.map_map]
    by_cases hposition : position = other <;> simpa [hposition, Function.comp_def] using hof

/-- Takes in a line of a section. -/
def row (content : Text) (scan : Scan) (of : Section) (cells : List Text) :
    Except TableError Scan :=
  match hposition : scan.index.lookup of with
  | none => pure (scan.introduce of cells)
  | some position => do
    let accumulator := scan.accumulators.get ⟨position, scan.position_lt hposition⟩
    return scan.record position (← accumulator.advance content cells)

/-- Takes in a line. -/
def line (content : Text) (scan : Scan) (text : Text) : Except TableError Scan :=
  match text.words with
  | [] => pure scan
  | header :: cells =>
    if header = unsupportedHeader then pure scan
    else match Section.ofHeader? header with
      | none => pure (scan.warn ⟨header :: cells, content⟩)
      | some of => scan.row content of cells

/-- Takes in lines up to the first that is refused, and tells the warnings until then. -/
def lines (content : Text) (scan : Scan) : List Text → List Warning × Except TableError Scan
  | [] => (scan.warnings, pure scan)
  | text :: rest =>
    match scan.line content text with
    | .ok next => next.lines content rest
    | .error error => (scan.warnings, throw error)

end Scan

end SocketMetrics.Netstat
