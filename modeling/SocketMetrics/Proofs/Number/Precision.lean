import SocketMetrics.Proofs.Number.Range
/-!
# The precision of rounding

The value of a rounded quotient is the number of units to which the quotient was rounded
(`toRat_ofRatio`). A unit is so small that rounding up adds one part in 2^53 at most to a quotient
that is not below the least normal number (`toRat_ofRatio_le`), so to one that is not below one
(`toRat_ofRatio_le_of_one_le`). A quotient below the overflow is rounded to a finite number
(`isFinite_ofRatio`), and so is a product whose exact value is below it (`isFinite_mul`).
-/

set_option autoImplicit false
set_option relaxedAutoImplicit false

namespace SocketMetrics.Number

namespace Binary64

/-- A biased exponent and a fraction leave the sign bit free. -/
theorem magnitude_lt {biased fraction : ℕ} (hbiased : biased < topExponent)
    (hfraction : fraction < fractions) : biased * fractions + fraction < signBit := by
  unfold topExponent at hbiased
  unfold fractions at hfraction ⊢
  unfold signBit
  omega

/-- The fields of a magnitude that is given by its biased exponent and its fraction. -/
theorem fields_ofMagnitude {biased fraction : ℕ} (hbiased : biased < topExponent)
    (hfraction : fraction < fractions) :
    (ofMagnitude false (biased * fractions + fraction)).biasedExponent = biased ∧
      (ofMagnitude false (biased * fractions + fraction)).fraction = fraction := by
  have hmagnitude := magnitude_lt hbiased hfraction
  have hdiv : (biased * fractions + fraction) / fractions = biased := by
    rw [Nat.mul_comm, Nat.mul_add_div (by decide), Nat.div_eq_of_lt hfraction, Nat.add_zero]
  constructor
  · rw [biasedExponent, bits_ofMagnitude hmagnitude, if_neg Bool.false_ne_true, hdiv]
    exact Nat.mod_eq_of_lt (hbiased.trans (by decide))
  · rw [Binary64.fraction, bits_ofMagnitude hmagnitude, if_neg Bool.false_ne_true,
      Nat.mul_add_mod_self_right, Nat.mod_eq_of_lt hfraction]

/-- A magnitude below that of infinity is finite. -/
theorem isFinite_ofMagnitude {magnitude : ℕ} (hmagnitude : magnitude < topExponent * fractions) :
    (ofMagnitude false magnitude).isFinite = true := by
  have hbiased : magnitude / fractions < topExponent := Nat.div_lt_of_lt_mul (by
    rwa [Nat.mul_comm] at hmagnitude)
  have hfraction : magnitude % fractions < fractions := Nat.mod_lt _ (by decide)
  have hfields := (fields_ofMagnitude hbiased hfraction).1
  rw [Nat.div_add_mod'] at hfields
  rw [isFinite, hfields]
  exact decide_eq_true hbiased

/-- The value of a normal number, by its fields. -/
theorem toRat_of_fields {biased fraction : ℕ} (hnormal : 0 < biased)
    (hbiased : biased < topExponent) (hfraction : fraction < fractions) :
    (ofMagnitude false (biased * fractions + fraction)).toRat =
      ((fractions + fraction : ℕ) : ℚ) * 2 ^ ((biased : ℤ) - 1075) := by
  have hmagnitude := magnitude_lt hbiased hfraction
  obtain ⟨hexponent, hfield⟩ := fields_ofMagnitude hbiased hfraction
  rw [toRat, isNegative_ofMagnitude hmagnitude, significand, exponent, hexponent, hfield,
    if_neg hnormal.ne', if_neg hnormal.ne', if_neg Bool.false_ne_true, one_mul]

/-- The value of a magnitude that consists of an exponent and normal units. -/
theorem toRat_ofMagnitude {above units : ℕ} (hnormal : fractions ≤ units)
    (hunits : units ≤ 2 * fractions)
    (hfinite : above * fractions + units < topExponent * fractions) :
    (ofMagnitude false (above * fractions + units)).toRat = units * 2 ^ ((above : ℤ) - 1074) := by
  rcases hunits.eq_or_lt with rfl | hless
  · -- the units are one power of two too long, and the exponent takes it up
    have hmagnitude : above * fractions + 2 * fractions = (above + 2) * fractions + 0 := by ring
    have hbiased : above + 2 < topExponent := by
      rw [hmagnitude, Nat.add_zero] at hfinite
      exact Nat.lt_of_mul_lt_mul_right hfinite
    have hexponent : ((above + 2 : ℕ) : ℤ) - 1075 = (above : ℤ) - 1074 + 1 := by omega
    rw [hmagnitude, toRat_of_fields (by omega) hbiased (by decide), hexponent,
      zpow_add_one₀ two_ne_zero]
    push_cast
    ring
  · have hmagnitude : above * fractions + units =
        (above + 1) * fractions + (units - fractions) := by
      rw [Nat.add_mul, Nat.one_mul, Nat.add_assoc, Nat.add_sub_cancel' hnormal]
    have hfraction : units - fractions < fractions := by omega
    have hbiased : above + 1 < topExponent := by
      rw [hmagnitude] at hfinite
      exact Nat.lt_of_mul_lt_mul_right ((Nat.le_add_right _ _).trans_lt hfinite)
    have hexponent : ((above + 1 : ℕ) : ℤ) - 1075 = (above : ℤ) - 1074 := by omega
    rw [hmagnitude, toRat_of_fields (by omega) hbiased hfraction, hexponent,
      Nat.add_sub_cancel' hnormal]

end Binary64

/-! ### Rounded quotients -/

section Quotient

variable {num den : ℕ}

/-- A quotient below the overflow is rounded to a finite number. -/
theorem isFinite_ofRatio (hden : 0 < den) (hbelow : (num : ℚ) / den < overflow) :
    (Binary64.ofRatio false num den).isFinite = true := by
  rcases Nat.eq_zero_or_pos num with rfl | hnum
  · exact Binary64.isFinite_ofMagnitude (by decide)
  · have hfinite := (roundedMagnitude_lt_iff hnum hden).mpr hbelow
    rw [ofRatio_eq false hnum, if_pos hfinite]
    exact Binary64.isFinite_ofMagnitude hfinite

theorem isNegative_ofRatio (num den : ℕ) : (Binary64.ofRatio false num den).isNegative = false := by
  rcases Nat.eq_zero_or_pos num with rfl | hnum
  · exact Binary64.isNegative_ofMagnitude (by decide)
  · rw [ofRatio_eq false hnum]
    split
    · next hfinite => exact Binary64.isNegative_ofMagnitude (hfinite.trans (by decide))
    · exact Binary64.isNegative_ofMagnitude (by decide)

variable (hnum : 0 < num) (hden : 0 < den)
include hnum hden

/-- A quotient that is not too small is rounded to its units. -/
theorem toRat_ofRatio (hnormal : -1022 ≤ floorLog2 num den) (hbelow : (num : ℚ) / den < overflow) :
    (Binary64.ofRatio false num den).toRat =
      roundedUnits num den * 2 ^ unitExponent num den := by
  have hfinite := (roundedMagnitude_lt_iff hnum hden).mpr hbelow
  have hnearest := isNearest_roundedUnits num hden
  have hleast := hnearest.le_of_le (le_div_unit hnum hden hnormal)
  have hmost := hnearest.ge_of_ge (div_unit_lt hnum hden).le
  have hexponent : ((unitExponent num den + 1074).toNat : ℤ) - 1074 = unitExponent num den := by
    have hbound : -1074 ≤ unitExponent num den := le_max_right _ _
    omega
  rw [ofRatio_eq false hnum, if_pos hfinite, roundedMagnitude,
    Binary64.toRat_ofMagnitude hleast hmost hfinite, hexponent]

/-- Rounding adds one part in 2^53 at most. -/
theorem toRat_ofRatio_le (hnormal : -1022 ≤ floorLog2 num den)
    (hbelow : (num : ℚ) / den < overflow) :
    (Binary64.ofRatio false num den).toRat ≤ num / den * (1 + 1 / 2 ^ 53) := by
  have hunit : (0 : ℚ) < 2 ^ unitExponent num den := by positivity
  have hleast := le_div_unit hnum hden hnormal
  obtain ⟨hnear, -⟩ := abs_le.mp (isNearest_roundedUnits num hden).near
  rw [toRat_ofRatio hnum hden hnormal hbelow, ← le_div_iff₀ hunit]
  generalize (roundedUnits num den : ℚ) = units at hnear ⊢
  rw [mul_div_right_comm]
  generalize (num : ℚ) / den / 2 ^ unitExponent num den = quotient at hleast hnear ⊢
  push_cast at hleast
  linarith

end Quotient

/-- A quotient that is not below one is rounded up by one part in 2^53 at most. -/
theorem toRat_ofRatio_le_of_one_le {num den : ℕ} (hden : 0 < den) (hone : den ≤ num)
    (hbelow : (num : ℚ) / den < overflow) :
    (Binary64.ofRatio false num den).toRat ≤ num / den * (1 + 1 / 2 ^ 53) := by
  have hnum : 0 < num := hden.trans_le hone
  refine toRat_ofRatio_le hnum hden ?_ hbelow
  have hquotient : (1 : ℚ) ≤ num / den := by
    rw [one_le_div (Nat.cast_pos.mpr hden)]
    exact Nat.cast_le.mpr hone
  have hpower : (2 : ℚ) ^ (0 : ℤ) < 2 ^ (floorLog2 num den + 1) := by
    rw [zpow_zero]
    exact hquotient.trans_lt (floorLog2_spec hnum hden).2
  have hexponent := (zpow_lt_zpow_iff_right₀ one_lt_two).mp hpower
  omega

/-! ### Rounded products -/

/-- A product of numbers that are not negative is finite if its exact value is below the overflow.
-/
theorem isFinite_mul {x y : Binary64} (hx : x.isNegative = false) (hy : y.isNegative = false)
    (hbelow : x.toRat * y.toRat < overflow) : (x.mul y).isFinite = true := by
  have hden : 0 < x.denominator * y.denominator := Nat.mul_pos x.denominator_pos y.denominator_pos
  rw [Binary64.mul, hx, hy, bne_self_eq_false]
  refine isFinite_ofRatio hden ?_
  rw [Binary64.toRat_of_not_negative hx, Binary64.toRat_of_not_negative hy] at hbelow
  push_cast
  rwa [← div_mul_div_comm]

end SocketMetrics.Number
