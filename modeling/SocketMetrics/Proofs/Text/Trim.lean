import Mathlib.Data.List.TakeWhile
import SocketMetrics.Text.Blank
/-!
# Text without the blanks around it

`trim` takes the white space off both ends of a text and nothing else: what is left has none at its
ends, and blanks around it give the text back (`trim_eq_iff`). More blanks around a text therefore
change nothing (`trim_append`).
-/

set_option autoImplicit false
set_option relaxedAutoImplicit false

namespace SocketMetrics.Text

variable {text core before after : Text}

/-- Every character of the text is white space. -/
def AllBlank (text : Text) : Prop :=
  ∀ c ∈ text, isBlank c = true

/-- The text neither begins nor ends with white space. -/
structure IsTrimmed (text : Text) : Prop where
  first : ∀ c ∈ text.head?, isBlank c = false
  last : ∀ c ∈ text.getLast?, isBlank c = false

theorem AllBlank.append (hbefore : AllBlank before) (hafter : AllBlank after) :
    AllBlank (before ++ after) :=
  List.forall_mem_append.mpr ⟨hbefore, hafter⟩

/-- Blanks in front of a text are passed over. -/
theorem dropWhile_append_of_allBlank (hbefore : AllBlank before) (text : Text) :
    (before ++ text).dropWhile isBlank = text.dropWhile isBlank :=
  List.dropWhile_append_of_pos hbefore

/-- A text that begins with something else than a blank is not passed over. -/
theorem dropWhile_of_head (hfirst : ∀ c ∈ text.head?, isBlank c = false) :
    text.dropWhile isBlank = text := by
  cases text with
  | nil => rfl
  | cons c rest => rw [List.dropWhile_cons_of_neg (by simp [hfirst c rfl])]

/-- Blanks around a text without blanks at its ends are taken off. -/
theorem trim_of_isTrimmed (hcore : IsTrimmed core) (hbefore : AllBlank before)
    (hafter : AllBlank after) : trim (before ++ core ++ after) = core := by
  have hafter' : AllBlank after.reverse := fun c hc ↦ hafter c (List.mem_reverse.mp hc)
  rw [trim, List.append_assoc, dropWhile_append_of_allBlank hbefore]
  cases core with
  | nil =>
    have hnone : after.dropWhile isBlank = [] := List.dropWhile_eq_nil_iff.mpr hafter
    rw [List.nil_append, hnone]
    rfl
  | cons c rest =>
    have hstays : (c :: rest ++ after).dropWhile isBlank = c :: rest ++ after :=
      dropWhile_of_head hcore.first
    have hlast : ∀ d ∈ (c :: rest).reverse.head?, isBlank d = false := by
      rw [List.head?_reverse]
      exact hcore.last
    rw [hstays, List.reverse_append, dropWhile_append_of_allBlank hafter', dropWhile_of_head hlast,
      List.reverse_reverse]

/-- A text without blanks has none at its ends. -/
theorem isTrimmed_of_forall (htext : ∀ c ∈ text, isBlank c = false) : IsTrimmed text :=
  ⟨fun c hc ↦ htext c (List.mem_of_mem_head? hc), fun c hc ↦ htext c (List.mem_of_mem_getLast? hc)⟩

/-- What is left of a text has no blanks at its ends. -/
theorem isTrimmed_trim (text : Text) : IsTrimmed (trim text) := by
  constructor
  · intro c hc
    have hfront : trim text <+: text.dropWhile isBlank := by
      rw [trim, ← List.reverse_suffix, List.reverse_reverse]
      exact List.dropWhile_suffix _
    obtain ⟨after, hafter⟩ := hfront
    have hhead : (text.dropWhile isBlank).head? = some c := by
      rw [← hafter, List.head?_append, hc, Option.some_or]
    have hnot := List.head?_dropWhile_not isBlank text
    rw [hhead] at hnot
    simpa using hnot
  · intro c hc
    rw [trim, List.getLast?_reverse] at hc
    have hnot := List.head?_dropWhile_not isBlank (text.dropWhile isBlank).reverse
    rw [Option.mem_def.mp hc] at hnot
    simpa using hnot

/-- A text is what is left of it with blanks around. -/
theorem exists_eq_append_trim (text : Text) :
    ∃ before after, AllBlank before ∧ AllBlank after ∧ text = before ++ trim text ++ after := by
  refine ⟨text.takeWhile isBlank, ((text.dropWhile isBlank).reverse.takeWhile isBlank).reverse,
    fun c hc ↦ List.mem_takeWhile_imp hc,
    fun c hc ↦ List.mem_takeWhile_imp (List.mem_reverse.mp hc), ?_⟩
  rw [trim, List.append_assoc, ← List.reverse_append, List.takeWhile_append_dropWhile,
    List.reverse_reverse, List.takeWhile_append_dropWhile]

/-- Trimming takes off the blanks around a text that has none at its ends. -/
theorem trim_eq_iff :
    trim text = core ↔ IsTrimmed core ∧
      ∃ before after, AllBlank before ∧ AllBlank after ∧ text = before ++ core ++ after := by
  constructor
  · rintro rfl
    exact ⟨isTrimmed_trim text, exists_eq_append_trim text⟩
  · rintro ⟨hcore, before, after, hbefore, hafter, rfl⟩
    exact trim_of_isTrimmed hcore hbefore hafter

/-- Blanks around a text change nothing about what is left of it. -/
theorem trim_append (hbefore : AllBlank before) (hafter : AllBlank after) (text : Text) :
    trim (before ++ text ++ after) = trim text := by
  obtain ⟨front, back, hfront, hback, htext⟩ := exists_eq_append_trim text
  refine trim_eq_iff.mpr ⟨isTrimmed_trim text, before ++ front, back ++ after,
    hbefore.append hfront, hback.append hafter, ?_⟩
  calc before ++ text ++ after = before ++ (front ++ trim text ++ back) ++ after := by rw [← htext]
    _ = before ++ front ++ trim text ++ (back ++ after) := by simp only [List.append_assoc]

end SocketMetrics.Text
