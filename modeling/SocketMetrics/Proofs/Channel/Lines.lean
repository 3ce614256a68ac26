import SocketMetrics.Proofs.Channel.Delivery
import SocketMetrics.Proofs.Text.Cut
/-!
# Texts that were written line by line

A text that was written as single lines falls into these lines again (`lines_linesText_append`), has
one line feed for each (`lineFeeds_linesText`) and ends in a line feed unless it is empty
(`getLast?_linesText`). `Text.Shows` allows for a last line whose line feed was refused; the lines
are still the ones that the text shows (`Text.Shows.lines_eq`).
-/

set_option autoImplicit false
set_option relaxedAutoImplicit false

namespace SocketMetrics

open Channel

namespace Text

/-- Single lines are told apart again, and what stands behind them is the last line. -/
theorem lines_linesText_append {lines : List Text} (hlines : ∀ line ∈ lines, '\n' ∉ line)
    {tail : Text} (htail : '\n' ∉ tail) : (linesText lines ++ tail).lines = lines ++ [tail] := by
  induction lines with
  | nil => simpa using lines_of_not_mem htail
  | cons line rest ih =>
    rw [List.forall_mem_cons] at hlines
    rw [linesText_cons, List.append_assoc, List.cons_append, lines_append_lineFeed,
      lines_of_not_mem hlines.1, ih hlines.2]
    rfl

/-- Single lines have one line feed each. -/
theorem lineFeeds_linesText {lines : List Text} (hlines : ∀ line ∈ lines, '\n' ∉ line) :
    (linesText lines).lineFeeds = lines.length := by
  induction lines with
  | nil => rfl
  | cons line rest ih =>
    rw [List.forall_mem_cons] at hlines
    have hrest := ih hlines.2
    unfold lineFeeds at hrest ⊢
    simp [List.count_eq_zero_of_not_mem hlines.1, hrest]

/-- Lines end in a line feed. -/
theorem getLast?_linesText {lines : List Text} (hlines : linesText lines ≠ []) :
    (linesText lines).getLast? = some '\n' := by
  rcases List.eq_nil_or_concat lines with rfl | ⟨front, last, rfl⟩
  · exact absurd rfl hlines
  · simp

/-! ### Lines of which the last may lack its line feed -/

/-- The text consists of the lines, the last of which may lack its line feed. -/
def Shows (text : Text) (lines : List Text) : Prop :=
  text = linesText lines ∨ ∃ front last, lines = front ++ [last] ∧ text = linesText front ++ last

/-- The lines that a text shows are its lines that are not empty. -/
theorem Shows.lines_eq {text : Text} {lines : List Text} (hshows : text.Shows lines)
    (hlines : ∀ line ∈ lines, '\n' ∉ line ∧ line ≠ []) :
    (text.lines.filter fun line ↦ !line.isEmpty) = lines := by
  have hfilter : ∀ front : List Text, (∀ line ∈ front, line ∈ lines) →
      (front.filter fun line ↦ !line.isEmpty) = front := by
    intro front hfront
    refine List.filter_eq_self.mpr fun line hline ↦ ?_
    simpa using (hlines line (hfront line hline)).2
  rcases hshows with rfl | ⟨front, last, rfl, rfl⟩
  · rw [← List.append_nil (linesText lines),
      lines_linesText_append (fun line hline ↦ (hlines line hline).1) (by simp),
      List.filter_append, hfilter lines fun _ hline ↦ hline]
    simp
  · have hlast := (hlines last (by simp)).1
    rw [lines_linesText_append (fun line hline ↦ (hlines line (by simp [hline])).1) hlast]
    exact hfilter _ fun _ hline ↦ hline

end Text

end SocketMetrics
