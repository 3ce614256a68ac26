import Mathlib.Algebra.Group.Nat.Defs
import Mathlib.Data.List.TakeWhile
import Mathlib.Logic.Function.Basic
import Mathlib.Tactic.Ring
import SocketMetrics.Number.Decimal
/-!
# Numerals

A row of digits is told apart from what follows it (`spanDigits_append`), and one row behind another
shifts its value (`digitsValue_append`). `IsCount raw value` says what a counter looks like: an
optional plus sign and then digits, leading zeros allowed, that denote a number below 2^64.
`count?_eq_some_iff` shows that these are the texts that `count?` accepts, with the numbers that
they denote. `digitsValue_decimal` says that the canonical numeral of a number denotes it, and
`decimal_append_inj` that it can be told from what follows it.
-/

set_option autoImplicit false
set_option relaxedAutoImplicit false

namespace SocketMetrics.Number

/-! ### Rows of digits -/

/-- Every character is a decimal digit. -/
def AllDigits (digits : Text) : Prop :=
  ∀ c ∈ digits, c.isDigit = true

/-- A row of digits ends where something else follows. -/
theorem spanDigits_append {digits rest : Text} (hdigits : AllDigits digits)
    (hrest : ∀ c ∈ rest.head?, c.isDigit = false) :
    spanDigits (digits ++ rest) = (digits, rest) := by
  have hstop : rest.takeWhile Char.isDigit = [] ∧ rest.dropWhile Char.isDigit = rest := by
    cases rest with
    | nil => exact ⟨rfl, rfl⟩
    | cons c rest => simp [hrest c rfl]
  rw [spanDigits, List.takeWhile_append_of_pos hdigits, List.dropWhile_append_of_pos hdigits,
    hstop.1, hstop.2, List.append_nil]

/-- A text is the row of digits at its beginning and what follows it. -/
theorem spanDigits_spec (text : Text) :
    AllDigits (spanDigits text).1 ∧ (∀ c ∈ (spanDigits text).2.head?, c.isDigit = false) ∧
      text = (spanDigits text).1 ++ (spanDigits text).2 := by
  refine ⟨fun _ hc ↦ List.mem_takeWhile_imp hc, fun c hc ↦ ?_,
    List.takeWhile_append_dropWhile.symm⟩
  have hhead : (text.dropWhile Char.isDigit).head? = some c := hc
  have hnot := List.head?_dropWhile_not Char.isDigit text
  rw [hhead] at hnot
  simpa using hnot

/-- A row of digits behind another shifts the value of the other. -/
theorem digitsValue_append (first second : Text) :
    digitsValue (first ++ second) =
      digitsValue first * 10 ^ second.length + digitsValue second := by
  have hfold (start : ℕ) : second.foldl (fun value c ↦ 10 * value + digitValue c) start =
      start * 10 ^ second.length + digitsValue second := by
    unfold digitsValue
    induction second generalizing start with
    | nil => simp
    | cons c second ih =>
      rw [List.foldl_cons, ih, List.foldl_cons, ih (10 * 0 + digitValue c), List.length_cons]
      ring
  rw [digitsValue, List.foldl_append, hfold]
  rfl

/-- More digits do not denote less. -/
theorem digitsValue_le_append (digits more : Text) :
    digitsValue digits * 10 ^ more.length ≤ digitsValue (digits ++ more) := by
  rw [digitsValue_append]
  exact Nat.le_add_right _ _

theorem digitValue_lt {c : Char} (hdigit : c.isDigit = true) : digitValue c < 10 := by
  have hlast : c.toNat ≤ '9'.toNat := (Char.isDigit_iff_toNat.mp hdigit).2
  have hspan : '9'.toNat = '0'.toNat + 9 := by decide
  unfold digitValue
  omega

/-- A row of digits denotes less than the power of ten for its length. -/
theorem digitsValue_lt {digits : Text} (hdigits : AllDigits digits) :
    digitsValue digits < 10 ^ digits.length := by
  induction digits with
  | nil => exact Nat.zero_lt_one
  | cons c digits ih =>
    have hrest := ih fun d hd ↦ hdigits d (List.mem_cons_of_mem _ hd)
    have hfirst : digitsValue [c] + 1 ≤ 10 := by
      have hc := digitValue_lt (hdigits c List.mem_cons_self)
      simp only [digitsValue, List.foldl_cons, List.foldl_nil]
      omega
    calc digitsValue (c :: digits)
        = digitsValue [c] * 10 ^ digits.length + digitsValue digits := digitsValue_append [c] digits
      _ < (digitsValue [c] + 1) * 10 ^ digits.length := by
        rw [Nat.add_mul, Nat.one_mul]
        omega
      _ ≤ 10 * 10 ^ digits.length := Nat.mul_le_mul_right _ hfirst
      _ = 10 ^ (digits.length + 1) := (pow_succ' 10 digits.length).symm

/-- Zeros in front do not count. -/
theorem digitsValue_replicate_append (count : ℕ) (digits : Text) :
    digitsValue (List.replicate count '0' ++ digits) = digitsValue digits := by
  induction count with
  | zero => rfl
  | succ count ih =>
    rw [List.replicate_succ, List.cons_append]
    exact ih

/-- Zeros behind a row of digits scale its value. -/
theorem digitsValue_append_replicate (digits : Text) (count : ℕ) :
    digitsValue (digits ++ List.replicate count '0') = digitsValue digits * 10 ^ count := by
  have hzeros := digitsValue_replicate_append count []
  rw [List.append_nil] at hzeros
  rw [digitsValue_append, hzeros, List.length_replicate]
  rfl

/-! ### Counters -/

/-- The text is an optional plus sign and digits, which denote the given number below 2^64. -/
def IsCount (raw : Text) (value : ℕ) : Prop :=
  ∃ digits, (raw = digits ∨ raw = '+' :: digits) ∧ digits ≠ [] ∧
    (∀ c ∈ digits, c.isDigit = true) ∧ digitsValue digits = value ∧ value < 2 ^ 64

theorem toCount?_eq_some_iff {n : Nat} {value : UInt64} :
    toCount? n = some value ↔ n = value.toNat := by
  constructor
  · intro h
    unfold toCount? at h
    split at h
    · next hfits =>
      rw [← Option.some.inj h]
      exact (UInt64.toNat_ofNat_of_lt' hfits).symm
    · cases h
  · rintro rfl
    exact toCount?_toNat value

theorem isNumeral_iff {text : Text} :
    isNumeral text = true ↔ text ≠ [] ∧ ∀ c ∈ text, c.isDigit = true := by
  simp [isNumeral]

/-- The counters are the texts that look like one, and each has the value it denotes. -/
theorem count?_eq_some_iff {raw : Text} {value : UInt64} :
    count? raw = some value ↔ IsCount raw value.toNat := by
  have hread (digits : Text) :
      (if isNumeral digits then toCount? (digitsValue digits) else none) = some value ↔
        digits ≠ [] ∧ (∀ c ∈ digits, c.isDigit = true) ∧
          digitsValue digits = value.toNat ∧ value.toNat < 2 ^ 64 := by
    have hbound : value.toNat < 2 ^ 64 := value.toNat_lt
    by_cases hnumeral : isNumeral digits = true
    · rw [if_pos hnumeral, toCount?_eq_some_iff]
      rw [isNumeral_iff] at hnumeral
      exact ⟨fun hvalue ↦ ⟨hnumeral.1, hnumeral.2, hvalue, hbound⟩, fun hall ↦ hall.2.2.1⟩
    · rw [if_neg hnumeral]
      rw [isNumeral_iff] at hnumeral
      simp only [reduceCtorEq, false_iff]
      exact fun hall ↦ hnumeral ⟨hall.1, hall.2.1⟩
  unfold count? IsCount
  split
  · next rest =>
    rw [hread]
    constructor
    · intro hrest
      exact ⟨rest, Or.inr rfl, hrest⟩
    · rintro ⟨digits, rfl | hdigits, hall⟩
      · exact absurd (hall.2.1 '+' List.mem_cons_self) (by decide)
      · obtain rfl := (List.cons.inj hdigits).2
        exact hall
  · next hsign =>
    rw [hread]
    constructor
    · intro hraw
      exact ⟨raw, Or.inl rfl, hraw⟩
    · rintro ⟨digits, rfl | hdigits, hall⟩
      · exact hall
      · exact absurd hdigits (hsign digits)

/-- A counter denotes a number below 2^64. -/
theorem IsCount.lt {raw : Text} {n : ℕ} (hcount : IsCount raw n) : n < 2 ^ 64 := by
  obtain ⟨_, _, _, _, _, hbound⟩ := hcount
  exact hbound

/-- A text looks like a counter when `count?` accepts it. -/
theorem isCount_iff {raw : Text} {n : Nat} :
    IsCount raw n ↔ ∃ value, count? raw = some value ∧ value.toNat = n := by
  constructor
  · intro hcount
    have hvalue : (UInt64.ofNat n).toNat = n := UInt64.toNat_ofNat_of_lt' hcount.lt
    refine ⟨UInt64.ofNat n, ?_, hvalue⟩
    rw [count?_eq_some_iff, hvalue]
    exact hcount
  · rintro ⟨value, hvalue, rfl⟩
    exact count?_eq_some_iff.mp hvalue

theorem exists_isCount_of_isSome {raw : Text} (hcount : (count? raw).isSome = true) :
    ∃ n, IsCount raw n := by
  obtain ⟨value, hvalue⟩ := Option.isSome_iff_exists.mp hcount
  exact ⟨value.toNat, count?_eq_some_iff.mp hvalue⟩

/-- A counter denotes one number. -/
theorem IsCount.unique {raw : Text} {first second : ℕ} (hfirst : IsCount raw first)
    (hsecond : IsCount raw second) : first = second := by
  obtain ⟨one, hone, rfl⟩ := isCount_iff.mp hfirst
  obtain ⟨other, hother, rfl⟩ := isCount_iff.mp hsecond
  rw [hone] at hother
  rw [Option.some.inj hother]

/-! ### Canonical numerals -/

/-- The canonical numeral denotes its number. -/
theorem digitsValue_decimal (n : ℕ) : digitsValue (decimal n) = n := by
  have hfold : digitsValue (decimal n) = Nat.ofDigitChars 10 (decimal n) 0 := by
    rw [Nat.ofDigitChars_eq_foldl]
    rfl
  rw [hfold]
  exact Nat.ofDigitChars_ten_toDigits

/-- The canonical numeral of a number is a row of digits. -/
theorem isNumeral_decimal (n : ℕ) : isNumeral (decimal n) = true :=
  isNumeral_iff.mpr ⟨Nat.toDigits_ne_nil, fun _ hc ↦
    Nat.isDigit_of_mem_toDigits (by decide) (by decide) hc⟩

/-- The canonical numeral of a number below 2^64 looks like a counter. -/
theorem isCount_decimal {n : ℕ} (hn : n < 2 ^ 64) : IsCount (decimal n) n :=
  ⟨decimal n, Or.inl rfl, (isNumeral_iff.mp (isNumeral_decimal n)).1,
    (isNumeral_iff.mp (isNumeral_decimal n)).2, digitsValue_decimal n, hn⟩

/-- Different numbers have different canonical numerals. -/
theorem decimal_injective : Function.Injective decimal :=
  Function.LeftInverse.injective digitsValue_decimal

/-- A numeral ends where something other than a digit follows. -/
theorem decimal_append_inj {first second : ℕ} {rest more : Text}
    (hrest : ∀ c ∈ rest.head?, c.isDigit = false) (hmore : ∀ c ∈ more.head?, c.isDigit = false)
    (heq : decimal first ++ rest = decimal second ++ more) : first = second ∧ rest = more := by
  have hdigits (n : ℕ) : AllDigits (decimal n) := (isNumeral_iff.mp (isNumeral_decimal n)).2
  have hspan := congrArg spanDigits heq
  rw [spanDigits_append (hdigits first) hrest, spanDigits_append (hdigits second) hmore,
    Prod.mk.injEq] at hspan
  exact ⟨decimal_injective hspan.1, hspan.2⟩

end SocketMetrics.Number
