import Mathlib.Data.List.Basic
import SocketMetrics.Number.Decimal
import SocketMetrics.Text.Blank
/-!
# Words and the marks between them

A word is a text that is not empty and has no white space; numerals are words. `Text.cutAt` cuts a
text at its first mark, and a front without the mark is found again whatever follows the mark
(`cutAt_append`). Fields that are words can therefore be written with a space between them and read
back.
-/

set_option autoImplicit false
set_option relaxedAutoImplicit false

namespace SocketMetrics.Text

/-! ### Words -/

/-- The text is not empty and has no white space. -/
def IsWord (text : Text) : Prop :=
  text ≠ [] ∧ ∀ c ∈ text, isBlank c = false

-- stated through a test of the list, so that not all characters are gone through
instance (text : Text) : Decidable text.IsWord :=
  decidable_of_iff (text ≠ [] ∧ (text.all fun c ↦ !isBlank c) = true) (by simp [IsWord])

theorem IsWord.not_mem {text : Text} (hword : text.IsWord) {c : Char}
    (hblank : isBlank c = true) : c ∉ text := by
  intro hmem
  rw [hword.2 c hmem] at hblank
  cases hblank

/-- Two words with a mark between them that is no white space are a word. -/
theorem IsWord.append_cons {first second : Text} {mark : Char} (hfirst : first.IsWord)
    (hmark : isBlank mark = false) (hsecond : second.IsWord) :
    IsWord (first ++ mark :: second) := by
  refine ⟨by simp, fun c hc ↦ ?_⟩
  rw [List.mem_append, List.mem_cons] at hc
  rcases hc with hc | rfl | hc
  · exact hfirst.2 c hc
  · exact hmark
  · exact hsecond.2 c hc

/-- A digit is no white space. -/
theorem isBlank_of_isDigit {c : Char} (hdigit : c.isDigit = true) : isBlank c = false := by
  rw [Char.isDigit_iff_toNat] at hdigit
  rw [isBlank, ← Bool.not_eq_true, CodePointRange.covers_iff]
  rintro ⟨range, hrange, hlow, hhigh⟩
  have hdigits : ∀ range ∈ blankRanges, range.2 < '0'.toNat ∨ '9'.toNat < range.1 := by
    decide
  rcases hdigits range hrange with hbelow | habove
  · omega
  · omega

/-- The canonical numeral of a number is a word. -/
theorem isWord_decimal (n : Nat) : IsWord (Number.decimal n) := by
  refine ⟨Nat.toDigits_ne_nil, fun c hc ↦ isBlank_of_isDigit ?_⟩
  exact Nat.isDigit_of_mem_toDigits (by decide) (by decide) hc

theorem isWord_decimalInt (i : Int) : IsWord (Number.decimalInt i) := by
  have hnumeral := isWord_decimal i.natAbs
  unfold Number.decimalInt
  split
  · refine ⟨List.cons_ne_nil _ _, fun c hc ↦ ?_⟩
    rcases List.mem_cons.mp hc with rfl | hc
    · decide
    · exact hnumeral.2 c hc
  · exact hnumeral

/-! ### Cutting at the first mark -/

/-- What stands in front of the first mark and, if there is one, what stands behind it. -/
def cutAt (mark : Char) : Text → Text × Option Text
  | [] => ([], none)
  | c :: rest =>
    if c = mark then ([], some rest)
    else (c :: (cutAt mark rest).1, (cutAt mark rest).2)

/-- A front without the mark ends at the mark behind it. -/
theorem cutAt_append {mark : Char} {front : Text} (hfront : mark ∉ front) (rest : Text) :
    cutAt mark (front ++ mark :: rest) = (front, some rest) := by
  induction front with
  | nil => simp [cutAt]
  | cons c front ih =>
    rw [List.mem_cons, not_or] at hfront
    rw [List.cons_append, cutAt, if_neg (Ne.symm hfront.1), ih hfront.2]

/-- A text without the mark is not cut. -/
theorem cutAt_of_not_mem {mark : Char} {text : Text} (htext : mark ∉ text) :
    cutAt mark text = (text, none) := by
  induction text with
  | nil => rfl
  | cons c text ih =>
    rw [List.mem_cons, not_or] at htext
    rw [cutAt, if_neg (Ne.symm htext.1), ih htext.2]

end SocketMetrics.Text
