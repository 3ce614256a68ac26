import Mathlib.Algebra.Order.Field.Basic
import Mathlib.Algebra.Order.Field.Rat
import Mathlib.Algebra.Order.Group.Unbundled.Abs
import Mathlib.Tactic.FieldSimp
import Mathlib.Tactic.Linarith
import Mathlib.Tactic.Ring
import SocketMetrics.Number.Duration
/-!
# Exact values and their rounding

`Binary64.toRat` is the exact number that a finite bit pattern denotes. The rounding of a quotient
works on the numerator and the denominator of its magnitude (`toRat_of_not_negative`). `IsNearest`
says without an algorithm which whole number a value is rounded to: the nearest one, and in a tie
the even one. There is only one (`IsNearest.unique`), and `nearest` finds it (`isNearest_iff`). It does
not leave the bounds of its value (`IsNearest.le_of_le`, `IsNearest.ge_of_ge`).

For counts of seconds, `isNearest_nanoseconds_iff` says what they are in nanoseconds. At most half
a nanosecond becomes no time at all (`nearestNanoseconds_eq_zero_iff`), and the whole seconds fit
64 bits if and only if the exact number is below 2^64 (`nearestNanoseconds_div_lt_iff`): numbers as
large as that are whole, so that rounding does not move them.
-/

set_option autoImplicit false
set_option relaxedAutoImplicit false

namespace SocketMetrics.Number

/-! ### Nearest whole numbers -/

/-- The whole number is nearest to the value, and even if another one is as near. -/
structure IsNearest (n : ℕ) (value : ℚ) : Prop where
  near : |value - n| ≤ 1 / 2
  even_of_tie : |value - n| = 1 / 2 → n % 2 = 0

/-- Whatever is closer to a value than one half is nearest to it. -/
theorem isNearest_of_lt {n : ℕ} {value : ℚ} (hclose : |value - n| < 1 / 2) : IsNearest n value :=
  ⟨hclose.le, fun htie ↦ absurd htie hclose.ne⟩

/-- An even number is nearest to all values up to one half away from it. -/
theorem isNearest_iff_of_even {n : ℕ} (heven : n % 2 = 0) {value : ℚ} :
    IsNearest n value ↔ |value - n| ≤ 1 / 2 :=
  ⟨IsNearest.near, fun hnear ↦ ⟨hnear, fun _ ↦ heven⟩⟩

/-- Only one whole number is nearest to a value. -/
theorem IsNearest.unique {first second : ℕ} {value : ℚ} (hfirst : IsNearest first value)
    (hsecond : IsNearest second value) : first = second := by
  wlog hle : first ≤ second generalizing first second
  · exact (this hsecond hfirst (Nat.le_of_not_le hle)).symm
  obtain ⟨hbelow, -⟩ := abs_le.mp hsecond.near
  obtain ⟨-, habove⟩ := abs_le.mp hfirst.near
  have hdistance : (second : ℚ) ≤ first + 1 := by linarith
  have hnext : second ≤ first + 1 := by exact_mod_cast hdistance
  by_contra hne
  have hsucc : second = first + 1 := by omega
  -- Both ends of a unit interval are nearest to its middle at most, and one of them is odd.
  have hmiddle : value = first + 1 / 2 := by
    rw [hsucc] at hbelow
    push_cast at hbelow
    linarith
  have hone := hfirst.even_of_tie (by rw [hmiddle]; norm_num)
  have hother := hsecond.even_of_tie (by rw [hmiddle, hsucc]; push_cast; norm_num)
  omega

/-- A quotient is its whole part and a rest below one. -/
theorem div_eq_whole_add_rest (num : ℕ) {den : ℕ} (hden : 0 < den) :
    ((num : ℚ) / den = (num / den : ℕ) + (num % den : ℕ) / den) ∧
      (0 : ℚ) ≤ (num % den : ℕ) / den ∧ ((num % den : ℕ) : ℚ) / den < 1 := by
  have hpos : (0 : ℚ) < den := Nat.cast_pos.mpr hden
  refine ⟨?_, div_nonneg (Nat.cast_nonneg _) hpos.le, ?_⟩
  · have hnum : ((den * (num / den) + num % den : ℕ) : ℚ) = num := by rw [Nat.div_add_mod]
    rw [← hnum]
    push_cast
    field_simp
  · rw [div_lt_one hpos]
    exact_mod_cast Nat.mod_lt num hden

/-- Rounding gives a nearest whole number. -/
theorem isNearest_nearest (num : ℕ) {den : ℕ} (hden : 0 < den) :
    IsNearest (nearest num den) (num / den) := by
  have hpos : (0 : ℚ) < den := Nat.cast_pos.mpr hden
  obtain ⟨hsplit, hrest_nonneg, hrest_lt⟩ := div_eq_whole_add_rest num hden
  rw [hsplit]
  simp only [nearest]
  split
  · next hless =>
    have hhalf : ((num % den : ℕ) : ℚ) / den < 1 / 2 := by
      rw [div_lt_div_iff₀ hpos two_pos, one_mul, mul_comm]
      exact_mod_cast Nat.compare_eq_lt.mp hless
    refine isNearest_of_lt ?_
    rwa [add_sub_cancel_left, abs_of_nonneg hrest_nonneg]
  · next hgreater =>
    have hhalf : 1 / 2 < ((num % den : ℕ) : ℚ) / den := by
      rw [div_lt_div_iff₀ two_pos hpos, one_mul, mul_comm _ (2 : ℚ)]
      exact_mod_cast Nat.compare_eq_gt.mp hgreater
    refine isNearest_of_lt ?_
    rw [Nat.cast_succ, add_sub_add_left_eq_sub, abs_sub_lt_iff]
    constructor <;> linarith
  · next htie =>
    have hhalf : ((num % den : ℕ) : ℚ) / den = 1 / 2 := by
      rw [div_eq_div_iff hpos.ne' two_ne_zero, one_mul, mul_comm]
      exact_mod_cast Nat.compare_eq_eq.mp htie
    rw [hhalf]
    split
    · next heven =>
      refine ⟨?_, fun _ ↦ heven⟩
      rw [add_sub_cancel_left, abs_of_pos one_half_pos]
    · next hodd =>
      refine ⟨?_, fun _ ↦ by omega⟩
      rw [Nat.cast_succ, add_sub_add_left_eq_sub]
      norm_num

/-- The nearest whole number is the one that rounding gives. -/
theorem isNearest_iff {num den n : ℕ} (hden : 0 < den) :
    IsNearest n (num / den) ↔ nearest num den = n :=
  ⟨(isNearest_nearest num hden).unique, fun heq ↦ heq ▸ isNearest_nearest num hden⟩

/-- A whole number is rounded to itself. -/
theorem nearest_one (n : ℕ) : nearest n 1 = n := by
  rw [nearest, Nat.mod_one, Nat.div_one]
  rfl

/-- Rounding goes at most one above the whole part of a quotient. -/
theorem nearest_le_div_succ (num den : ℕ) : nearest num den ≤ num / den + 1 := by
  simp only [nearest]
  split
  · exact Nat.le_succ _
  · exact Nat.le_refl _
  · split
    · exact Nat.le_succ _
    · exact Nat.le_refl _

section Bounds

variable {n bound : ℕ} {value : ℚ}

/-- A whole number that is not above the value is not above the nearest one either. -/
theorem IsNearest.le_of_le (hnearest : IsNearest n value) (hbound : bound ≤ value) : bound ≤ n := by
  obtain ⟨-, habove⟩ := abs_le.mp hnearest.near
  by_contra hless
  have hnext : (n : ℚ) + 1 ≤ bound := by exact_mod_cast not_le.mp hless
  linarith

/-- A whole number that is not below the value is not below the nearest one either. -/
theorem IsNearest.ge_of_ge (hnearest : IsNearest n value) (hbound : value ≤ bound) : n ≤ bound := by
  obtain ⟨hbelow, -⟩ := abs_le.mp hnearest.near
  by_contra hless
  have hnext : (bound : ℚ) + 1 ≤ n := by exact_mod_cast not_le.mp hless
  linarith

/-- The nearest whole number to a value that is not negative is above zero when the value is above
one half. -/
theorem IsNearest.pos_iff (hnearest : IsNearest n value) (hvalue : 0 ≤ value) :
    0 < n ↔ 1 / 2 < value := by
  have hzero : IsNearest 0 value ↔ value ≤ 1 / 2 := by
    rw [isNearest_iff_of_even rfl, Nat.cast_zero, sub_zero, abs_of_nonneg hvalue]
  rw [Nat.pos_iff_ne_zero, ← not_le, ← hzero, not_iff_not]
  constructor
  · rintro rfl
    exact hnearest
  · exact hnearest.unique

/-- The nearest whole number to a value below an even bound is below it when the value is so by
more than one half. -/
theorem IsNearest.lt_iff (hnearest : IsNearest n value) (heven : bound % 2 = 0)
    (hvalue : value < bound) : n < bound ↔ value < bound - 1 / 2 := by
  have hbound : IsNearest bound value ↔ bound - 1 / 2 ≤ value := by
    rw [isNearest_iff_of_even heven, abs_of_neg (sub_neg.mpr hvalue), neg_sub, sub_le_comm]
  rw [(hnearest.ge_of_ge hvalue.le).lt_iff_ne, ← not_le, ← hbound, not_iff_not]
  constructor
  · rintro rfl
    exact hnearest
  · exact hnearest.unique

end Bounds

/-! ### Exact values -/

/-- A power with an integral exponent as a quotient of powers with natural ones. -/
theorem zpow_eq_div {base : ℚ} (hbase : base ≠ 0) (exponent : ℤ) :
    base ^ exponent = base ^ exponent.toNat / base ^ (-exponent).toNat := by
  rw [← zpow_natCast, ← zpow_natCast, ← zpow_sub₀ hbase, Int.toNat_sub_toNat_neg]

namespace Binary64

/-- The number that a finite bit pattern denotes. -/
def toRat (x : Binary64) : ℚ :=
  (if x.isNegative then -1 else 1) * (x.significand * 2 ^ x.exponent)

theorem denominator_pos (x : Binary64) : 0 < x.denominator := by
  rw [denominator, Nat.shiftLeft_eq, Nat.one_mul]
  exact Nat.two_pow_pos _

/-- A number that is not negative is the quotient of its numerator and its denominator. -/
theorem toRat_of_not_negative {x : Binary64} (hsign : x.isNegative = false) :
    x.toRat = x.numerator / x.denominator := by
  rw [toRat, hsign, numerator, denominator, Nat.shiftLeft_eq, Nat.shiftLeft_eq,
    zpow_eq_div two_ne_zero]
  push_cast
  ring

theorem toRat_nonneg {x : Binary64} (hsign : x.isNegative = false) : 0 ≤ x.toRat := by
  rw [toRat_of_not_negative hsign]
  exact div_nonneg (Nat.cast_nonneg _) (Nat.cast_nonneg _)

/-- A significand has at most 53 bits. -/
theorem significand_lt (x : Binary64) : x.significand < 2 ^ 53 := by
  have hfraction : x.fraction < fractions := Nat.mod_lt _ (by decide)
  have htwice : 2 ^ 53 = fractions + fractions := by decide
  unfold significand
  split <;> omega

end Binary64

/-! ### Seconds -/

/-- The nearest count of nanoseconds to a number of seconds that is not negative. -/
def Binary64.nearestNanoseconds (seconds : Binary64) : ℕ :=
  nearest (seconds.numerator * Duration.nanosPerSecond) seconds.denominator

/-- Half of the shortest time that is told from no time, in seconds. -/
def halfNanosecond : ℚ :=
  1 / (2 * Duration.nanosPerSecond)

section Seconds

variable {seconds : Binary64}

/-- The nearest count of nanoseconds to the exact number of seconds is the one that is computed. -/
theorem isNearest_nanoseconds_iff (hsign : seconds.isNegative = false) {n : ℕ} :
    IsNearest n (seconds.toRat * Duration.nanosPerSecond) ↔ seconds.nearestNanoseconds = n := by
  rw [Binary64.nearestNanoseconds, ← isNearest_iff seconds.denominator_pos,
    Binary64.toRat_of_not_negative hsign, div_mul_eq_mul_div, Nat.cast_mul]

/-- A number of seconds is rounded to no time when it is at most half a nanosecond. -/
theorem nearestNanoseconds_eq_zero_iff (hsign : seconds.isNegative = false) :
    seconds.nearestNanoseconds = 0 ↔ seconds.toRat ≤ halfNanosecond := by
  have hunit : (0 : ℚ) < Duration.nanosPerSecond := by simp [Duration.nanosPerSecond]
  have hnonneg : 0 ≤ seconds.toRat * Duration.nanosPerSecond :=
    mul_nonneg (Binary64.toRat_nonneg hsign) hunit.le
  rw [← isNearest_nanoseconds_iff hsign, isNearest_iff_of_even rfl, Nat.cast_zero, sub_zero,
    abs_of_nonneg hnonneg, ← le_div_iff₀ hunit, div_div, halfNanosecond]

/-- Rounding to nanoseconds takes no number of seconds across 2^64. -/
theorem nearestNanoseconds_div_lt_iff (hsign : seconds.isNegative = false) :
    seconds.nearestNanoseconds / Duration.nanosPerSecond < UInt64.size ↔
      seconds.toRat < 2 ^ 64 := by
  rw [Binary64.toRat_of_not_negative hsign, Binary64.nearestNanoseconds]
  rcases le_or_gt 0 seconds.exponent with hwhole | hfraction
  · -- The number is whole, and nothing is rounded.
    have hden : seconds.denominator = 1 := by
      have hnone : (-seconds.exponent).toNat = 0 := by omega
      rw [Binary64.denominator, hnone, Nat.shiftLeft_zero]
    rw [hden, nearest_one, Nat.mul_div_cancel _ (by decide), Nat.cast_one, div_one]
    exact_mod_cast Iff.rfl
  · -- The number is below 2^53.
    have hnum : seconds.numerator < 2 ^ 53 := by
      have hnone : seconds.exponent.toNat = 0 := by omega
      rw [Binary64.numerator, hnone, Nat.shiftLeft_zero]
      exact seconds.significand_lt
    have hrounded := nearest_le_div_succ (seconds.numerator * Duration.nanosPerSecond)
      seconds.denominator
    have hquotient := Nat.div_le_self (seconds.numerator * Duration.nanosPerSecond)
      seconds.denominator
    refine iff_of_true ?_ ?_
    · rw [Nat.div_lt_iff_lt_mul (by decide)]
      unfold Duration.nanosPerSecond at *
      have hsize : UInt64.size = 2 ^ 64 := rfl
      omega
    · have hden : (1 : ℚ) ≤ seconds.denominator := by exact_mod_cast seconds.denominator_pos
      refine lt_of_le_of_lt (div_le_self (Nat.cast_nonneg _) hden) ?_
      exact_mod_cast hnum.trans (by decide)

/-- A finite number of seconds that is not negative is a length of time unless it has too many
whole seconds. -/
theorem Duration.ofSeconds?_eq (hfinite : seconds.isFinite = true)
    (hsign : seconds.isNegative = false) :
    Duration.ofSeconds? seconds =
      if seconds.nearestNanoseconds / Duration.nanosPerSecond < UInt64.size then
        some ⟨seconds.nearestNanoseconds⟩
      else none := by
  have hlength : (!seconds.isFinite || (seconds.isNegative && !seconds.isZero)) ≠ true := by
    simp [hfinite, hsign]
  rw [Duration.ofSeconds?, if_neg hlength]
  rfl

end Seconds

end SocketMetrics.Number
