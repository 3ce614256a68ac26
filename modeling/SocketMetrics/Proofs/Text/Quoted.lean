import Mathlib.Data.List.Basic
import SocketMetrics.Text.Quoted
/-!
# Quoted text is plain

Whatever a text holds, its quoted form holds plain characters only (`isPlain_of_mem_quote`): the
others stand there as escapes, which are made of plain characters. A message that shows a content
can therefore not be broken into lines by it (`lineFeed_not_mem_quote`).
-/

set_option autoImplicit false
set_option relaxedAutoImplicit false

namespace SocketMetrics.Text

/-- A hexadecimal numeral of more than one digit ends with its last one. -/
theorem toDigits_eq_append {n : Nat} (hlarge : 16 ≤ n) :
    Nat.toDigits 16 n = Nat.toDigits 16 (n / 16) ++ [Nat.digitChar (n % 16)] := by
  have hlast : n % 16 < 16 := Nat.mod_lt n (by decide)
  rw [← Nat.toDigits_of_lt_base hlast,
    Nat.toDigits_append_toDigits (by decide) (by omega) hlast, Nat.div_add_mod]

/-- The characters of a hexadecimal numeral are hexadecimal digits. -/
theorem exists_digitChar_of_mem_toDigits {n : Nat} {c : Char} (hc : c ∈ Nat.toDigits 16 n) :
    ∃ digit < 16, c = Nat.digitChar digit := by
  induction n using Nat.strongRecOn with
  | ind n ih =>
    by_cases hsmall : n < 16
    · rw [Nat.toDigits_of_lt_base hsmall, List.mem_singleton] at hc
      exact ⟨n, hsmall, hc⟩
    · rw [toDigits_eq_append (Nat.le_of_not_lt hsmall), List.mem_append, List.mem_singleton] at hc
      rcases hc with hfront | hback
      · exact ih (n / 16) (by omega) hfront
      · exact ⟨n % 16, Nat.mod_lt n (by decide), hback⟩

/-- What is no hexadecimal digit does not stand in a hexadecimal numeral. -/
theorem not_mem_toDigits {c : Char} (hc : ∀ digit < 16, c ≠ Nat.digitChar digit) (n : Nat) :
    c ∉ Nat.toDigits 16 n := by
  intro hmem
  obtain ⟨digit, hdigit, heq⟩ := exists_digitChar_of_mem_toDigits hmem
  exact hc digit hdigit heq

/-- A hexadecimal numeral is plain. -/
theorem isPlain_of_mem_toDigits {n : Nat} {c : Char} (hc : c ∈ Nat.toDigits 16 n) :
    isPlain c = true := by
  have hdigits : ∀ digit < 16, isPlain (Nat.digitChar digit) = true := by decide
  obtain ⟨digit, hdigit, rfl⟩ := exists_digitChar_of_mem_toDigits hc
  exact hdigits digit hdigit

/-- The letter of a short escape is plain. -/
theorem isPlain_of_escapeLetter? {c letter : Char} (hletter : escapeLetter? c = some letter) :
    isPlain letter = true := by
  unfold escapeLetter? at hletter
  split at hletter
  case h_7 => cases hletter
  all_goals
    cases hletter
    decide

/-- Every character is escaped into plain ones. -/
theorem isPlain_of_mem_escape {c d : Char} (hd : d ∈ escape c) : isPlain d = true := by
  unfold escape at hd
  split at hd
  · next letter hletter =>
    rcases List.mem_pair.mp hd with rfl | rfl
    · decide
    · exact isPlain_of_escapeLetter? hletter
  · split at hd
    · next hplain => rwa [List.mem_singleton.mp hd]
    · have hmarks : ∀ mark ∈ ['\\', 'u', '{', '}'], isPlain mark = true :=
        List.all_eq_true.mp (by decide)
      simp only [List.mem_append] at hd
      rcases hd with (hd | hd) | hd
      · exact hmarks d (List.mem_append_left ['}'] hd)
      · exact isPlain_of_mem_toDigits hd
      · exact hmarks d (List.mem_append_right ['\\', 'u', '{'] hd)

/-- Quoted text is plain. -/
theorem isPlain_of_mem_quote {text : Text} {c : Char} (hc : c ∈ text.quote) :
    isPlain c = true := by
  simp only [quote, List.mem_append, List.mem_cons, List.mem_flatMap, List.not_mem_nil,
    or_false] at hc
  rcases hc with (rfl | ⟨d, -, hescape⟩) | rfl
  · decide
  · exact isPlain_of_mem_escape hescape
  · decide

theorem lineFeed_not_mem_quote (text : Text) : '\n' ∉ text.quote := by
  intro hmem
  exact absurd (isPlain_of_mem_quote hmem) (by decide)

/-- A character of texts with a separator between them is one of the separator or of a text. -/
theorem mem_or_exists_mem_of_mem_intercalate {separator : Text} {texts : List Text} {c : Char}
    (hc : c ∈ separator.intercalate texts) : c ∈ separator ∨ ∃ text ∈ texts, c ∈ text := by
  induction texts with
  | nil => simp at hc
  | cons first rest ih =>
    cases rest with
    | nil => exact Or.inr ⟨first, by simp, by simpa using hc⟩
    | cons second rest =>
      rw [List.intercalate_cons_cons, List.mem_append, List.mem_append] at hc
      rcases hc with (hfirst | hseparator) | hrest
      · exact Or.inr ⟨first, by simp, hfirst⟩
      · exact Or.inl hseparator
      · rcases ih hrest with hseparator | ⟨text, htext, hmem⟩
        · exact Or.inl hseparator
        · exact Or.inr ⟨text, List.mem_cons_of_mem _ htext, hmem⟩

/-- A list of quoted texts is plain. -/
theorem lineFeed_not_mem_quoteList (texts : List Text) : '\n' ∉ quoteList texts := by
  intro hmem
  simp only [quoteList, List.mem_append, List.mem_cons, List.not_mem_nil, or_false] at hmem
  rcases hmem with (hopen | hbetween) | hclose
  · exact absurd hopen (by decide)
  · rcases mem_or_exists_mem_of_mem_intercalate hbetween with hseparator | ⟨quoted, hquoted, hmem⟩
    · exact absurd hseparator (by decide)
    · obtain ⟨text, -, rfl⟩ := List.mem_map.mp hquoted
      exact lineFeed_not_mem_quote text hmem
  · exact absurd hclose (by decide)

end SocketMetrics.Text
