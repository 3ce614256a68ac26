import Mathlib.Algebra.Order.Field.Power
import Mathlib.Tactic.NormNum
import Mathlib.Tactic.Positivity
import SocketMetrics.Proofs.Number.Count
import SocketMetrics.Proofs.Number.Rounding
/-!
# The range of floating-point numbers

A quotient is rounded to zero when it is at most half of the least positive number (`underflow`),
and to infinity from halfway between the greatest finite number and the next power of two on
(`overflow`). `isPositiveFinite_ofRatio_iff` says that all other quotients without a sign become
finite positive numbers, and `isPositiveFinite_ofDecimal_iff` that this is so for decimal numbers
too, even if their powers of ten are so great or so small that they are not computed.
-/

set_option autoImplicit false
set_option relaxedAutoImplicit false

namespace SocketMetrics.Number

/-! ### The binary order of magnitude -/

/-- Numerator and denominator shifted by an exponent are the quotient divided by a power of two. -/
theorem shiftLeft_div_shiftLeft (num den : ℕ) (exponent : ℤ) :
    ((num <<< (-exponent).toNat : ℕ) : ℚ) / (den <<< exponent.toNat : ℕ) =
      num / den / 2 ^ exponent := by
  rw [zpow_eq_div two_ne_zero, Nat.shiftLeft_eq, Nat.shiftLeft_eq]
  push_cast
  field_simp

/-- The binary order of magnitude of a quotient is the exponent of the greatest power of two that
is not above it. -/
theorem floorLog2_spec {num den : ℕ} (hnum : 0 < num) (hden : 0 < den) :
    (2 : ℚ) ^ floorLog2 num den ≤ num / den ∧
      (num : ℚ) / den < 2 ^ (floorLog2 num den + 1) := by
  have hpos : (0 : ℚ) < den := Nat.cast_pos.mpr hden
  have hnumBelow : (2 : ℚ) ^ num.log2 ≤ num := by exact_mod_cast Nat.log2_self_le hnum.ne'
  have hnumAbove : (num : ℚ) < 2 ^ (num.log2 + 1) := by exact_mod_cast Nat.lt_log2_self
  have hdenBelow : (2 : ℚ) ^ den.log2 ≤ den := by exact_mod_cast Nat.log2_self_le hden.ne'
  have hdenAbove : (den : ℚ) ≤ 2 ^ (den.log2 + 1) := by exact_mod_cast Nat.lt_log2_self.le
  -- the logarithms of both parts leave two powers to choose from
  have hbelow : (2 : ℚ) ^ ((num.log2 : ℤ) - den.log2 - 1) ≤ num / den :=
    calc (2 : ℚ) ^ ((num.log2 : ℤ) - den.log2 - 1) = 2 ^ num.log2 / 2 ^ (den.log2 + 1) := by
          rw [sub_sub, zpow_sub₀ two_ne_zero]
          norm_cast
      _ ≤ num / den := div_le_div₀ (Nat.cast_nonneg _) hnumBelow hpos hdenAbove
  have habove : (num : ℚ) / den < 2 ^ ((num.log2 : ℤ) - den.log2 + 1) :=
    calc (num : ℚ) / den < 2 ^ (num.log2 + 1) / 2 ^ den.log2 :=
          div_lt_div₀ hnumAbove hdenBelow (by positivity) (by positivity)
      _ = 2 ^ ((num.log2 : ℤ) - den.log2 + 1) := by
          rw [sub_add_eq_add_sub, zpow_sub₀ two_ne_zero]
          norm_cast
  have hchoice : den <<< ((num.log2 : ℤ) - den.log2).toNat ≤
      num <<< (-((num.log2 : ℤ) - den.log2)).toNat ↔
        (2 : ℚ) ^ ((num.log2 : ℤ) - den.log2) ≤ num / den := by
    rw [zpow_eq_div two_ne_zero, Nat.shiftLeft_eq, Nat.shiftLeft_eq,
      div_le_div_iff₀ (by positivity) hpos, mul_comm den]
    exact_mod_cast Iff.rfl
  unfold floorLog2
  dsimp only
  split
  · next hleast => exact ⟨hchoice.mp hleast, habove⟩
  · next hleast =>
    rw [sub_add_cancel]
    exact ⟨hbelow, lt_of_not_ge (mt hchoice.mpr hleast)⟩

/-! ### Bit patterns -/

namespace Binary64

/-- The number is finite and greater than zero. -/
def IsPositiveFinite (x : Binary64) : Prop :=
  x.isFinite = true ∧ x.isPositive = true

section Positive

variable {x : Binary64} (hx : x.IsPositiveFinite)
include hx

theorem IsPositiveFinite.isNegative_eq_false : x.isNegative = false := by
  have hpositive := hx.2
  simp only [isPositive, Bool.and_eq_true, Bool.not_eq_true'] at hpositive
  exact hpositive.1.1

theorem IsPositiveFinite.significand_pos : 0 < x.significand := by
  rw [Nat.pos_iff_ne_zero]
  intro hzero
  obtain ⟨hfinite, hpositive⟩ := hx
  simp [isPositive, isZero, hfinite, hzero] at hpositive

end Positive

section Magnitude

variable {negative : Bool} {magnitude : ℕ} (hmagnitude : magnitude < signBit)
include hmagnitude

/-- The bits of a number are those of its magnitude behind the sign. -/
theorem bits_ofMagnitude : (ofMagnitude negative magnitude).bits.toNat =
    if negative then signBit + magnitude else magnitude := by
  have hfits : (if negative then signBit + magnitude else magnitude) < UInt64.size := by
    have hsize : UInt64.size = signBit + signBit := by decide
    split <;> omega
  exact UInt64.toNat_ofNat_of_lt' hfits

theorem isNegative_ofMagnitude : (ofMagnitude negative magnitude).isNegative = negative := by
  rw [isNegative, bits_ofMagnitude hmagnitude]
  cases negative <;> simp [hmagnitude]

/-- The pattern of a magnitude is finite and positive when it has no sign and lies between the
patterns of zero and infinity. -/
theorem isPositiveFinite_ofMagnitude_iff :
    (ofMagnitude negative magnitude).IsPositiveFinite ↔
      negative = false ∧ 0 < magnitude ∧ magnitude < topExponent * fractions := by
  cases negative with
  | true => simp [IsPositiveFinite, isPositive, isNegative_ofMagnitude hmagnitude]
  | false =>
    have hexponent : (ofMagnitude false magnitude).biasedExponent = magnitude / fractions := by
      rw [biasedExponent, bits_ofMagnitude hmagnitude, if_neg Bool.false_ne_true, Nat.mod_eq_of_lt]
      exact Nat.div_lt_of_lt_mul hmagnitude
    have hfinite : (ofMagnitude false magnitude).isFinite = true ↔
        magnitude < topExponent * fractions := by
      rw [isFinite, decide_eq_true_eq, hexponent, Nat.div_lt_iff_lt_mul (by decide)]
    have hzero : (ofMagnitude false magnitude).significand = 0 ↔ magnitude = 0 := by
      rw [significand, hexponent, fraction, bits_ofMagnitude hmagnitude, if_neg Bool.false_ne_true]
      unfold fractions
      split <;> omega
    have hpositive (hfinite : (ofMagnitude false magnitude).isFinite = true) :
        (ofMagnitude false magnitude).isPositive = true ↔ 0 < magnitude := by
      simp [isPositive, isNaN, isZero, isNegative_ofMagnitude hmagnitude, hfinite, hzero,
        Nat.pos_iff_ne_zero]
    rw [IsPositiveFinite, and_congr_right hpositive, hfinite]
    simp [and_comm]

end Magnitude

end Binary64

/-! ### Rounding a quotient -/

/-- Half of the least positive number. It is rounded to zero, being as near to the even zero. -/
def underflow : ℚ :=
  2 ^ (-1075 : ℤ)

/-- The middle between the greatest finite number and the next power of two. It is rounded to
infinity, the significand of the greatest finite number being odd. -/
def overflow : ℚ :=
  2 ^ 1024 - 2 ^ 970

/-- The overflow in the greatest unit of all. -/
theorem overflow_eq : overflow = (2 ^ 53 - 1 / 2) * 2 ^ (971 : ℤ) := by
  have hwhole : (2 : ℚ) ^ 1024 = 2 ^ 53 * 2 ^ 971 := by rw [← pow_add]
  have hhalf : (2 : ℚ) ^ 971 = 2 * 2 ^ 970 := pow_succ' 2 970
  have hnatural : (2 : ℚ) ^ (971 : ℤ) = 2 ^ 971 := zpow_ofNat 2 971
  rw [overflow, hnatural, hwhole, hhalf]
  generalize (2 : ℚ) ^ 970 = half
  ring

section Quotient

variable {num den : ℕ}

/-- The exponent of the unit that a quotient is rounded to. -/
def unitExponent (num den : ℕ) : ℤ :=
  max (floorLog2 num den - 52) (-1074)

/-- How many of these units a quotient is rounded to. -/
def roundedUnits (num den : ℕ) : ℕ :=
  nearest (num <<< (-unitExponent num den).toNat) (den <<< (unitExponent num den).toNat)

/-- The bits that a quotient is rounded to, up to its sign, if it is not too great. -/
def roundedMagnitude (num den : ℕ) : ℕ :=
  (unitExponent num den + 1074).toNat * Binary64.fractions + roundedUnits num den

theorem ofRatio_eq (negative : Bool) (hnum : 0 < num) :
    Binary64.ofRatio negative num den =
      if roundedMagnitude num den < Binary64.topExponent * Binary64.fractions then
        .ofMagnitude negative (roundedMagnitude num den)
      else .infinity negative := by
  rw [Binary64.ofRatio, if_neg hnum.ne']
  rfl

/-- The units are the nearest whole number of them. -/
theorem isNearest_roundedUnits (num : ℕ) {den : ℕ} (hden : 0 < den) :
    IsNearest (roundedUnits num den) (num / den / 2 ^ unitExponent num den) := by
  rw [← shiftLeft_div_shiftLeft]
  refine isNearest_nearest _ ?_
  rw [Nat.shiftLeft_eq]
  positivity

variable (hnum : 0 < num) (hden : 0 < den)
include hnum hden

/-- A quotient is less than 2^53 units. -/
theorem div_unit_lt : (num : ℚ) / den / 2 ^ unitExponent num den < (2 ^ 53 : ℕ) := by
  have hexponent : floorLog2 num den + 1 ≤ 53 + unitExponent num den := by
    unfold unitExponent
    omega
  rw [div_lt_iff₀ (by positivity)]
  calc (num : ℚ) / den < 2 ^ (floorLog2 num den + 1) := (floorLog2_spec hnum hden).2
    _ ≤ 2 ^ (53 + unitExponent num den) := zpow_le_zpow_right₀ one_le_two hexponent
    _ = (2 ^ 53 : ℕ) * 2 ^ unitExponent num den := by
      rw [zpow_add₀ two_ne_zero]
      norm_cast

/-- A quotient that is not too small is at least 2^52 units. -/
theorem le_div_unit (hnormal : -1022 ≤ floorLog2 num den) :
    ((2 ^ 52 : ℕ) : ℚ) ≤ num / den / 2 ^ unitExponent num den := by
  have hexponent : 52 + unitExponent num den = floorLog2 num den := by
    unfold unitExponent
    omega
  rw [le_div_iff₀ (by positivity)]
  calc ((2 ^ 52 : ℕ) : ℚ) * 2 ^ unitExponent num den = 2 ^ (52 + unitExponent num den) := by
        rw [zpow_add₀ two_ne_zero]
        norm_cast
    _ ≤ num / den := by
      rw [hexponent]
      exact (floorLog2_spec hnum hden).1

/-- A quotient is rounded to something above zero when it is above half of the least unit. -/
theorem roundedMagnitude_pos_iff :
    0 < roundedMagnitude num den ↔ underflow < (num : ℚ) / den := by
  have hnearest := isNearest_roundedUnits num hden
  unfold roundedMagnitude underflow
  have hleast : -1074 ≤ unitExponent num den := le_max_right _ _
  rcases hleast.eq_or_lt with hleast | hless
  · -- The bits are the number of least units.
    rw [← hleast] at hnearest ⊢
    have hnonneg : (0 : ℚ) ≤ num / den / 2 ^ (-1074 : ℤ) := by positivity
    have hhalf : (1 / 2 : ℚ) * 2 ^ (-1074 : ℤ) = 2 ^ (-1075 : ℤ) := by
      rw [show (-1075 : ℤ) = -1 + -1074 by norm_num, zpow_add₀ two_ne_zero]
      norm_num
    have hunits := hnearest.pos_iff hnonneg
    rw [lt_div_iff₀ (by positivity), hhalf] at hunits
    simpa using hunits
  · -- The exponent alone is above zero.
    refine iff_of_true ?_ ?_
    · have hexponent : 0 < (unitExponent num den + 1074).toNat := by omega
      exact Nat.add_pos_left (Nat.mul_pos hexponent (by decide)) _
    · have hfloor : -1075 < floorLog2 num den := by
        unfold unitExponent at hless
        omega
      calc (2 : ℚ) ^ (-1075 : ℤ) < 2 ^ floorLog2 num den := zpow_lt_zpow_right₀ one_lt_two hfloor
        _ ≤ num / den := (floorLog2_spec hnum hden).1

/-- A quotient is rounded to something below infinity when it is below the overflow. -/
theorem roundedMagnitude_lt_iff :
    roundedMagnitude num den < Binary64.topExponent * Binary64.fractions ↔
      (num : ℚ) / den < overflow := by
  have hnearest := isNearest_roundedUnits num hden
  have hless := div_unit_lt hnum hden
  have hunits := hnearest.ge_of_ge hless.le
  obtain ⟨hbelow, habove⟩ := floorLog2_spec hnum hden
  rw [overflow_eq]
  unfold roundedMagnitude Binary64.topExponent Binary64.fractions
  -- Only for the greatest finite exponent do the units decide.
  rcases lt_trichotomy (floorLog2 num den) 1023 with hsmall | hlast | hgreat
  · have hunit : unitExponent num den ≤ 970 := by
      unfold unitExponent
      omega
    refine iff_of_true (by omega) ?_
    calc (num : ℚ) / den < 2 ^ (floorLog2 num den + 1) := habove
      _ ≤ 2 ^ (52 + 971 : ℤ) := zpow_le_zpow_right₀ one_le_two (by omega)
      _ = 2 ^ (52 : ℤ) * 2 ^ (971 : ℤ) := zpow_add₀ two_ne_zero _ _
      _ ≤ (2 ^ 53 - 1 / 2) * 2 ^ (971 : ℤ) :=
        mul_le_mul_of_nonneg_right (by norm_num) (by positivity)
  · have hunit : unitExponent num den = 971 := by
      unfold unitExponent
      omega
    rw [hunit] at hnearest hless ⊢
    have hlt := hnearest.lt_iff (by norm_num) hless
    rw [div_lt_iff₀ (by positivity), Nat.cast_pow, Nat.cast_ofNat] at hlt
    rw [← hlt]
    omega
  · have hunit : 972 ≤ unitExponent num den := by
      unfold unitExponent
      omega
    have hnormal := hnearest.le_of_le (le_div_unit hnum hden (by omega))
    refine iff_of_false (by omega) (not_lt.mpr ?_)
    calc (2 ^ 53 - 1 / 2) * (2 : ℚ) ^ (971 : ℤ) ≤ 2 ^ (53 : ℤ) * 2 ^ (971 : ℤ) :=
          mul_le_mul_of_nonneg_right (by norm_num) (by positivity)
      _ = 2 ^ (53 + 971 : ℤ) := (zpow_add₀ two_ne_zero _ _).symm
      _ ≤ 2 ^ floorLog2 num den := zpow_le_zpow_right₀ one_le_two (by omega)
      _ ≤ num / den := hbelow

end Quotient

/-- Zero is out of the range. -/
theorem underflow_pos : 0 < underflow := by
  unfold underflow
  positivity

/-- Zero of either sign is not positive. -/
theorem not_isPositiveFinite_zero (negative : Bool) :
    ¬ (Binary64.zero negative).IsPositiveFinite := by
  rw [Binary64.zero, Binary64.isPositiveFinite_ofMagnitude_iff (by decide)]
  simp

/-- Infinity of either sign is not finite. -/
theorem not_isPositiveFinite_infinity (negative : Bool) :
    ¬ (Binary64.infinity negative).IsPositiveFinite := by
  rw [Binary64.infinity, Binary64.isPositiveFinite_ofMagnitude_iff (by decide)]
  simp

/-- A quotient is rounded to a finite positive number when it has no sign and lies in the range. -/
theorem isPositiveFinite_ofRatio_iff {negative : Bool} {num den : ℕ} (hden : 0 < den) :
    (Binary64.ofRatio negative num den).IsPositiveFinite ↔
      negative = false ∧ underflow < (num : ℚ) / den ∧ (num : ℚ) / den < overflow := by
  rcases Nat.eq_zero_or_pos num with rfl | hnum
  · rw [Nat.cast_zero, zero_div]
    refine iff_of_false (not_isPositiveFinite_zero negative) ?_
    rintro ⟨-, hpositive, -⟩
    exact underflow_pos.not_gt hpositive
  · rw [ofRatio_eq negative hnum, ← roundedMagnitude_pos_iff hnum hden,
      ← roundedMagnitude_lt_iff hnum hden]
    split
    · next hfinite =>
      exact Binary64.isPositiveFinite_ofMagnitude_iff (hfinite.trans (by decide))
    · next hinfinite =>
      refine iff_of_false (not_isPositiveFinite_infinity negative) ?_
      rintro ⟨-, -, hfinite⟩
      exact hinfinite hfinite

/-! ### Rounding a decimal number -/

theorem powerOfTen_pos (exponent : ℕ) : 0 < powerOfTen exponent :=
  Nat.pow_pos (by decide)

theorem cast_powerOfTen (exponent : ℕ) : (powerOfTen exponent : ℚ) = 10 ^ exponent :=
  Nat.cast_pow 10 exponent

/-- A number is below the power of ten for the length of its numeral, and not below the one before
it. -/
theorem decimal_bounds {digits : ℕ} (hdigits : 0 < digits) :
    10 ^ ((decimal digits).length - 1) ≤ digits ∧ digits < 10 ^ (decimal digits).length := by
  have hlength : 0 < (decimal digits).length := Nat.length_toDigits_pos
  have hlonger (length : ℕ) (hpos : 0 < length) :
      (decimal digits).length ≤ length ↔ digits < 10 ^ length :=
    Nat.length_toDigits_le_iff (by decide) hpos
  refine ⟨?_, (hlonger _ hlength).mp le_rfl⟩
  rcases Nat.eq_zero_or_pos ((decimal digits).length - 1) with hone | hmore
  · rw [hone]
    exact hdigits
  · rw [← not_lt, ← hlonger _ hmore]
    omega

section Decimal

variable {digits : ℕ} (hdigits : 0 < digits) (exponent : ℤ)
include hdigits

/-- A decimal number is below the power of ten for its scale. -/
theorem decimal_lt_zpow :
    (digits : ℚ) * 10 ^ exponent < 10 ^ ((decimal digits).length + exponent) := by
  rw [zpow_add₀ (by norm_num), zpow_natCast]
  have hbound : (digits : ℚ) < 10 ^ (decimal digits).length := by
    exact_mod_cast (decimal_bounds hdigits).2
  exact mul_lt_mul_of_pos_right hbound (by positivity)

/-- A decimal number is not below the power of ten in front of its scale. -/
theorem zpow_le_decimal :
    (10 : ℚ) ^ ((decimal digits).length + exponent - 1) ≤ digits * 10 ^ exponent := by
  have hlength : 0 < (decimal digits).length := Nat.length_toDigits_pos
  have hbound : (10 : ℚ) ^ ((decimal digits).length - 1) ≤ digits := by
    exact_mod_cast (decimal_bounds hdigits).1
  have hscale : ((decimal digits).length : ℤ) + exponent - 1 =
      ((decimal digits).length - 1 : ℕ) + exponent := by omega
  rw [hscale, zpow_add₀ (by norm_num), zpow_natCast]
  exact mul_le_mul_of_nonneg_right hbound (by positivity)

end Decimal

/-- Powers of ten that are not computed for being too small are below the range. -/
theorem zpow_le_underflow {scale : ℤ} (hscale : scale < -330) : (10 : ℚ) ^ scale ≤ underflow := by
  have hpowers : (2 ^ 1075 : ℕ) ≤ 10 ^ 331 := by decide +kernel
  have hcast : ((2 ^ 1075 : ℕ) : ℚ) ≤ (10 ^ 331 : ℕ) := Nat.cast_le.mpr hpowers
  rw [Nat.cast_pow, Nat.cast_pow, Nat.cast_ofNat, Nat.cast_ofNat] at hcast
  calc (10 : ℚ) ^ scale ≤ 10 ^ (-331 : ℤ) := zpow_le_zpow_right₀ (by norm_num) (by omega)
    _ ≤ underflow := by
      rw [underflow, zpow_neg, zpow_neg, zpow_ofNat, zpow_ofNat]
      exact inv_anti₀ (by positivity) hcast

/-- Powers of ten are above the range from this one on. -/
theorem overflow_le_zpow {exponent : ℤ} (hgreat : 309 ≤ exponent) :
    overflow ≤ (10 : ℚ) ^ exponent := by
  have hpowers : (2 ^ 1024 : ℕ) ≤ 10 ^ 309 := by decide +kernel
  have hcast : ((2 ^ 1024 : ℕ) : ℚ) ≤ (10 ^ 309 : ℕ) := Nat.cast_le.mpr hpowers
  rw [Nat.cast_pow, Nat.cast_pow, Nat.cast_ofNat, Nat.cast_ofNat] at hcast
  calc overflow ≤ 2 ^ 1024 := sub_le_self _ (by positivity)
    _ ≤ 10 ^ (309 : ℤ) := by rwa [zpow_ofNat]
    _ ≤ 10 ^ exponent := zpow_le_zpow_right₀ (by norm_num) hgreat

/-- A decimal number is rounded to a finite positive number when it has no sign and lies in the
range. -/
theorem isPositiveFinite_ofDecimal_iff {negative : Bool} {digits : ℕ} {exponent : ℤ} :
    (Binary64.ofDecimal negative digits exponent).IsPositiveFinite ↔
      negative = false ∧ underflow < (digits : ℚ) * 10 ^ exponent ∧
        (digits : ℚ) * 10 ^ exponent < overflow := by
  rcases Nat.eq_zero_or_pos digits with rfl | hdigits
  · rw [Nat.cast_zero, zero_mul]
    refine iff_of_false (not_isPositiveFinite_zero negative) ?_
    rintro ⟨-, hpositive, -⟩
    exact underflow_pos.not_gt hpositive
  have hbelow := decimal_lt_zpow hdigits exponent
  have habove := zpow_le_decimal hdigits exponent
  unfold Binary64.ofDecimal
  dsimp only
  split_ifs with hsmall hgreat
  · have hscale := hsmall.resolve_left hdigits.ne'
    refine iff_of_false (not_isPositiveFinite_zero negative) ?_
    rintro ⟨-, hpositive, -⟩
    exact (hbelow.trans_le (zpow_le_underflow hscale)).not_gt hpositive
  · refine iff_of_false (not_isPositiveFinite_infinity negative) ?_
    rintro ⟨-, -, hfinite⟩
    exact ((overflow_le_zpow (by omega)).trans habove).not_gt hfinite
  · rw [isPositiveFinite_ofRatio_iff (powerOfTen_pos _), Nat.cast_mul, mul_div_assoc,
      cast_powerOfTen, cast_powerOfTen, ← zpow_eq_div (by norm_num)]

end SocketMetrics.Number
