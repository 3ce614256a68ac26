import SocketMetrics.Proofs.Text.Cut
import SocketMetrics.Proofs.Text.Word
/-!
# Words laid out in lines

`Spaced words line` says that a line consists of the given words, with white space between them and
perhaps at its ends. `LaidOut lines text` says that a text consists of such lines, each with a line
feed or a carriage return and a line feed behind it, which the last one may lack. Whatever white
space was chosen, the words come back: those of one line (`Spaced.words_eq`) and those of each line
(`LaidOut.exists_map_words`), where a text that ends in a line feed has an empty line more.
-/

set_option autoImplicit false
set_option relaxedAutoImplicit false

namespace SocketMetrics.Text

/-! ### Layouts -/

/-- White space within a line. -/
def IsGap (gap : Text) : Prop :=
  ∀ c ∈ gap, isBlank c = true ∧ c ≠ '\n'

/-- What stands behind a word: the given words with white space in front of each, and perhaps some
behind them. -/
inductive SpacedBehind : List Text → Text → Prop where
  | none {gap : Text} (hgap : IsGap gap) : SpacedBehind [] gap
  | word {gap word rest : Text} {words : List Text} (hgap : IsGap gap) (hsome : gap ≠ [])
      (hrest : SpacedBehind words rest) : SpacedBehind (word :: words) (gap ++ (word ++ rest))

/-- The line consists of the given words with white space between them and perhaps at its ends. -/
inductive Spaced : List Text → Text → Prop where
  | none {gap : Text} (hgap : IsGap gap) : Spaced [] gap
  | word {gap word rest : Text} {words : List Text} (hgap : IsGap gap)
      (hrest : SpacedBehind words rest) : Spaced (word :: words) (gap ++ (word ++ rest))

/-- The text consists of lines with the given words. The last line may lack its line end. -/
inductive LaidOut : List (List Text) → Text → Prop where
  | none : LaidOut [] []
  | last {words : List Text} {line : Text} (hline : Spaced words line) : LaidOut [words] line
  | line {words : List Text} {line ending rest : Text} {lines : List (List Text)}
      (hline : Spaced words line)
      (hending : ending = "\n".toList ∨ ending = "\r\n".toList) (hrest : LaidOut lines rest) :
      LaidOut (words :: lines) (line ++ (ending ++ rest))

/-! ### The words of a line -/

section Line

variable {gap word rest line : Text} {words : List Text}

theorem isGap_nil : IsGap [] :=
  fun _ hc ↦ absurd hc List.not_mem_nil

theorem IsGap.lineFeed_not_mem (hgap : IsGap gap) : '\n' ∉ gap :=
  fun hmem ↦ (hgap '\n' hmem).2 rfl

theorem IsGap.append (hgap : IsGap gap) {more : Text} (hmore : IsGap more) :
    IsGap (gap ++ more) :=
  fun c hc ↦ (List.mem_append.mp hc).elim (hgap c) (hmore c)

theorem words_cons_of_isBlank {c : Char} (hblank : isBlank c = true) (rest : Text) :
    Text.words (c :: rest) = rest.words := by
  simp [Text.words, pieces, hblank]

/-- White space at the beginning does not matter. -/
theorem IsGap.words_append (hgap : IsGap gap) (rest : Text) :
    Text.words (gap ++ rest) = rest.words := by
  induction gap with
  | nil => rfl
  | cons c gap ih =>
    rw [IsGap, List.forall_mem_cons] at hgap
    rw [List.cons_append, words_cons_of_isBlank hgap.1.1, ih hgap.2]

theorem IsGap.words_eq_nil (hgap : IsGap gap) : gap.words = [] := by
  have hwords := hgap.words_append []
  rwa [List.append_nil] at hwords

theorem IsWord.words_eq (hword : word.IsWord) : word.words = [word] := by
  have hsome : word.isEmpty = false := by simpa using hword.1
  simp [Text.words, pieces_of_forall hword.2, hsome]

/-- A word in front of white space is the first one. -/
theorem IsWord.words_append_cons (hword : word.IsWord) {c : Char} (hblank : isBlank c = true)
    (rest : Text) : Text.words (word ++ c :: rest) = word :: rest.words := by
  have hsome : word.isEmpty = false := by simpa using hword.1
  simp [Text.words, pieces_append_of_forall hword.2 hblank, hsome]

/-- What stands behind a word does not run into it. -/
theorem SpacedBehind.words_append (hrest : SpacedBehind words rest) (hword : word.IsWord)
    (hwords : ∀ word ∈ words, word.IsWord) : Text.words (word ++ rest) = word :: words := by
  induction hrest generalizing word with
  | @none gap hgap =>
    cases gap with
    | nil => rw [List.append_nil, hword.words_eq]
    | cons c gap =>
      rw [IsGap, List.forall_mem_cons] at hgap
      rw [hword.words_append_cons hgap.1.1, IsGap.words_eq_nil hgap.2]
  | word hgap hsome _ ih =>
    rw [List.forall_mem_cons] at hwords
    obtain ⟨c, more, rfl⟩ := List.exists_cons_of_ne_nil hsome
    rw [IsGap, List.forall_mem_cons] at hgap
    rw [List.cons_append, hword.words_append_cons hgap.1.1, IsGap.words_append hgap.2,
      ih hwords.1 hwords.2]

/-- A line has the words of which it consists. -/
theorem Spaced.words_eq (hline : Spaced words line) (hwords : ∀ word ∈ words, word.IsWord) :
    line.words = words := by
  cases hline with
  | none hgap => exact hgap.words_eq_nil
  | word hgap hrest =>
    rw [List.forall_mem_cons] at hwords
    rw [hgap.words_append, hrest.words_append hwords.1 hwords.2]

/-! ### Lines -/

theorem IsWord.lineFeed_not_mem (hword : word.IsWord) : '\n' ∉ word :=
  hword.not_mem (by decide)

theorem SpacedBehind.lineFeed_not_mem (hrest : SpacedBehind words rest)
    (hwords : ∀ word ∈ words, word.IsWord) : '\n' ∉ rest := by
  induction hrest with
  | none hgap => exact hgap.lineFeed_not_mem
  | word hgap _ _ ih =>
    rw [List.forall_mem_cons] at hwords
    simp [hgap.lineFeed_not_mem, hwords.1.lineFeed_not_mem, ih hwords.2]

theorem Spaced.lineFeed_not_mem (hline : Spaced words line)
    (hwords : ∀ word ∈ words, word.IsWord) : '\n' ∉ line := by
  cases hline with
  | none hgap => exact hgap.lineFeed_not_mem
  | word hgap hrest =>
    rw [List.forall_mem_cons] at hwords
    simp [hgap.lineFeed_not_mem, hwords.1.lineFeed_not_mem, hrest.lineFeed_not_mem hwords.2]

theorem SpacedBehind.append (hrest : SpacedBehind words rest) (hgap : IsGap gap) :
    SpacedBehind words (rest ++ gap) := by
  induction hrest with
  | none hfirst => exact .none (hfirst.append hgap)
  | word hfirst hsome _ ih =>
    rw [List.append_assoc, List.append_assoc]
    exact .word hfirst hsome ih

/-- A line may have more white space at its end. -/
theorem Spaced.append (hline : Spaced words line) (hgap : IsGap gap) :
    Spaced words (line ++ gap) := by
  cases hline with
  | none hfirst => exact .none (hfirst.append hgap)
  | word hfirst hrest =>
    rw [List.append_assoc, List.append_assoc]
    exact .word hfirst (hrest.append hgap)

theorem isGap_carriageReturn : IsGap ['\r'] := by
  intro c hc
  rw [List.mem_singleton.mp hc]
  exact ⟨by decide, by decide⟩

end Line

/-- A line end of either kind leaves a line of the same words and the lines behind it. -/
theorem Spaced.exists_lines_eq {words : List Text} {line ending : Text}
    (hline : Spaced words line) (hwords : ∀ word ∈ words, word.IsWord)
    (hending : ending = "\n".toList ∨ ending = "\r\n".toList) (rest : Text) :
    ∃ first, lines (line ++ (ending ++ rest)) = first :: rest.lines ∧ first.words = words := by
  rcases hending with rfl | rfl
  · refine ⟨line, ?_, hline.words_eq hwords⟩
    change lines (line ++ '\n' :: rest) = _
    rw [lines_append_lineFeed, lines_of_not_mem (hline.lineFeed_not_mem hwords)]
    rfl
  · -- the carriage return is white space at the end of the line
    have hlonger := hline.append isGap_carriageReturn
    refine ⟨line ++ ['\r'], ?_, hlonger.words_eq hwords⟩
    change lines (line ++ '\r' :: '\n' :: rest) = _
    rw [List.append_cons, lines_append_lineFeed,
      lines_of_not_mem (hlonger.lineFeed_not_mem hwords)]
    rfl

/-- The lines of a text have the words that were laid out, and an empty line may follow. -/
theorem LaidOut.exists_map_words {lines : List (List Text)} {text : Text}
    (htext : LaidOut lines text) (hwords : ∀ words ∈ lines, ∀ word ∈ words, word.IsWord) :
    ∃ tail, (tail = [] ∨ tail = [[]]) ∧ text.lines.map words = lines ++ tail := by
  induction htext with
  | none => exact ⟨[[]], Or.inr rfl, rfl⟩
  | last hline =>
    have hall := hwords _ List.mem_cons_self
    refine ⟨[], Or.inl rfl, ?_⟩
    rw [lines_of_not_mem (hline.lineFeed_not_mem hall), List.map_singleton, hline.words_eq hall]
    rfl
  | line hline hending _ ih =>
    rw [List.forall_mem_cons] at hwords
    obtain ⟨tail, htail, hrest⟩ := ih hwords.2
    obtain ⟨first, hlines, hfirst⟩ := hline.exists_lines_eq hwords.1 hending _
    refine ⟨tail, htail, ?_⟩
    rw [hlines, List.map_cons, hfirst, hrest, List.cons_append]

/-! ### Every text is laid out -/

theorem SpacedBehind.cons {c : Char} {words : List Text} {rest : Text} (hblank : isBlank c = true)
    (hmark : c ≠ '\n') (hrest : SpacedBehind words rest) : SpacedBehind words (c :: rest) := by
  cases hrest with
  | none hgap => exact .none (List.forall_mem_cons.mpr ⟨⟨hblank, hmark⟩, hgap⟩)
  | word hgap _ hbehind =>
    rw [← List.cons_append]
    exact .word (List.forall_mem_cons.mpr ⟨⟨hblank, hmark⟩, hgap⟩) (List.cons_ne_nil _ _) hbehind

theorem SpacedBehind.spaced {words : List Text} {rest : Text} (hrest : SpacedBehind words rest) :
    Spaced words rest := by
  cases hrest with
  | none hgap => exact .none hgap
  | word hgap _ hbehind => exact .word hgap hbehind

/-- The pieces of a line behind the first one are words with white space in front of them. -/
theorem exists_spacedBehind {line : Text} (hline : '\n' ∉ line) :
    ∃ first others rest, line.pieces isBlank = first :: others ∧ line = first ++ rest ∧
      SpacedBehind (others.filter fun piece ↦ !piece.isEmpty) rest := by
  induction line with
  | nil => exact ⟨[], [], [], rfl, rfl, .none isGap_nil⟩
  | cons c line ih =>
    rw [List.mem_cons, not_or] at hline
    obtain ⟨first, others, rest, hpieces, rfl, hrest⟩ := ih hline.2
    by_cases hblank : isBlank c = true
    · refine ⟨[], first :: others, c :: (first ++ rest), by simp [pieces, hblank, hpieces], rfl, ?_⟩
      cases first with
      | nil => exact hrest.cons hblank (Ne.symm hline.1)
      | cons d first =>
        have hgap : IsGap [c] := by simpa [IsGap, hblank] using Ne.symm hline.1
        exact .word hgap (List.cons_ne_nil _ _) hrest
    · exact ⟨c :: first, others, rest, by simp [pieces, hblank, hpieces], rfl, hrest⟩

/-- A line consists of its words. -/
theorem spaced_words {line : Text} (hline : '\n' ∉ line) : Spaced line.words line := by
  obtain ⟨first, others, rest, hpieces, rfl, hrest⟩ := exists_spacedBehind hline
  unfold words
  rw [hpieces]
  cases first with
  | nil => exact hrest.spaced
  | cons c first => exact .word isGap_nil hrest

/-- A text consists of lines with the words that its lines have. -/
theorem laidOut_map_words (text : Text) : LaidOut (text.lines.map words) text := by
  induction hlength : text.length using Nat.strongRecOn generalizing text with
  | ind length ih =>
    by_cases hmark : '\n' ∈ text
    · obtain ⟨line, rest, rfl, hline⟩ := List.eq_append_cons_of_mem hmark
      have hshorter : rest.length < length := by
        rw [← hlength, List.length_append, List.length_cons]
        omega
      rw [lines_append_lineFeed, lines_of_not_mem hline]
      exact .line (spaced_words hline) (Or.inl rfl) (ih rest.length hshorter rest rfl)
    · rw [lines_of_not_mem hmark]
      exact .last (spaced_words hmark)

end SocketMetrics.Text
