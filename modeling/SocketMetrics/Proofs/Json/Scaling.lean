import SocketMetrics.Proofs.Json.Literal
import SocketMetrics.Proofs.Number.Precision
/-!
# Numbers that were written are not too great

A number is read as a significand and a power of ten, which do not denote more than its digits do
(`toRat_scaled_le`). Both are rounded before they are multiplied, so that the product of an amount
near the greatest number might be taken for infinity; below `safe` it never is (`isSome_scale?`).
The shortest decimals of all finite positive numbers but the two greatest are safe
(`eq_of_not_safe`), and the two are read as well, so that every finite positive number is written as
a literal that is read as a number (`isReadBack`).
-/

set_option autoImplicit false
set_option relaxedAutoImplicit false

namespace SocketMetrics.Json

open Number

/-! ### Significands -/

namespace Scaled

/-- The number that the significand and the power of ten denote. -/
def toRat (scaled : Scaled) : ℚ :=
  scaled.significand * 10 ^ scaled.exponent

/-- The significand of some digits grows by one digit if 64 bits hold it. -/
theorem appended?_digits (digits : Text) (exponent : ℤ) (c : Char) :
    (⟨digitsValue digits, exponent⟩ : Scaled).appended? c =
      if digitsValue (digits ++ [c]) < 2 ^ 64 then some (digitsValue (digits ++ [c]))
      else none := by
  have hvalue : 10 * digitsValue digits + digitValue c = digitsValue (digits ++ [c]) := by
    simp only [digitsValue, List.foldl_append, List.foldl_cons, List.foldl_nil]
  rw [appended?]
  dsimp only
  rw [hvalue]
  rfl

-- Lean does not find these equations by itself: it unfolds the bound of 64 bits while it looks for
-- them.
theorem ofWhole_cons (scaled : Scaled) (c : Char) (rest : Text) :
    ofWhole scaled (c :: rest) =
      match scaled.appended? c with
      | some significand => ofWhole { scaled with significand } rest
      | none => { scaled with exponent := scaled.exponent + (rest.length + 1) } := by
  rfl

theorem addPlaces_cons (scaled : Scaled) (c : Char) (rest : Text) :
    addPlaces scaled (c :: rest) =
      match scaled.appended? c with
      | some significand => addPlaces ⟨significand, scaled.exponent - 1⟩ rest
      | none => scaled := by
  rfl

/-- A whole part that fits is taken up in full. -/
theorem ofWhole_append (exponent : ℤ) (digits more : Text)
    (hfits : digitsValue (digits ++ more) < 2 ^ 64) :
    ofWhole ⟨digitsValue digits, exponent⟩ more = ⟨digitsValue (digits ++ more), exponent⟩ := by
  induction more generalizing digits with
  | nil =>
    rw [List.append_nil]
    rfl
  | cons c more ih =>
    have hsplit : digits ++ c :: more = digits ++ [c] ++ more := by simp
    rw [hsplit] at hfits ⊢
    have hnext : digitsValue (digits ++ [c]) < 2 ^ 64 :=
      calc digitsValue (digits ++ [c])
          ≤ digitsValue (digits ++ [c]) * 10 ^ more.length :=
            Nat.le_mul_of_pos_right _ (Nat.pow_pos (by decide))
        _ ≤ digitsValue (digits ++ [c] ++ more) := digitsValue_le_append _ more
        _ < 2 ^ 64 := hfits
    rw [ofWhole_cons, appended?_digits, if_pos hnext]
    exact ih _ hfits

/-- What is taken up of the places does not denote more than all of them. -/
theorem toRat_addPlaces_le (exponent : ℤ) (digits more : Text) :
    (addPlaces ⟨digitsValue digits, exponent⟩ more).toRat ≤
      digitsValue (digits ++ more) * 10 ^ (exponent - more.length) := by
  induction more generalizing digits exponent with
  | nil =>
    rw [List.append_nil, List.length_nil, Nat.cast_zero, sub_zero]
    exact le_rfl
  | cons c more ih =>
    rw [addPlaces_cons, appended?_digits]
    split_ifs with hfits
    · have hnext := ih (exponent - 1) (digits ++ [c])
      have hexponent : exponent - 1 - (more.length : ℤ) = exponent - ((c :: more).length : ℕ) := by
        rw [List.length_cons]
        omega
      rwa [List.append_assoc, List.singleton_append, hexponent] at hnext
    · have hcast : ((digitsValue digits * 10 ^ (c :: more).length : ℕ) : ℚ) ≤
          digitsValue (digits ++ c :: more) := Nat.cast_le.mpr (digitsValue_le_append _ _)
      push_cast at hcast
      rw [toRat, zpow_sub₀ (by norm_num), zpow_natCast, mul_div_assoc', le_div_iff₀ (by positivity),
        mul_right_comm]
      exact mul_le_mul_of_nonneg_right hcast (by positivity)

end Scaled

namespace NumberLiteral

variable {literal : NumberLiteral}

/-- A literal whose whole part fits is not taken for more than it denotes. -/
theorem toRat_scaled_le (hfits : digitsValue literal.whole < 2 ^ 64) :
    literal.scaled.toRat ≤ literal.toRat := by
  have hwhole := Scaled.ofWhole_append 0 [] literal.whole hfits
  have hplaces := Scaled.toRat_addPlaces_le 0 literal.whole literal.decimals
  rw [List.nil_append] at hwhole
  have hscaled : literal.scaled.toRat =
      (Scaled.addPlaces ⟨digitsValue literal.whole, 0⟩ literal.decimals).toRat *
        10 ^ literal.exponent.getD 0 := by
    rw [scaled, ← hwhole, Scaled.toRat, Scaled.toRat, zpow_add₀ (by norm_num), ← mul_assoc]
    rfl
  calc literal.scaled.toRat
      ≤ digitsValue (literal.whole ++ literal.decimals) *
          10 ^ ((0 : ℤ) - literal.decimals.length) * 10 ^ literal.exponent.getD 0 := by
        rw [hscaled]
        exact mul_le_mul_of_nonneg_right hplaces (by positivity)
    _ = literal.toRat := by
        rw [mul_assoc, ← zpow_add₀ (by norm_num), toRat, zero_sub, neg_add_eq_sub]

end NumberLiteral

/-! ### Products of rounded numbers -/

/-- What is not above this stays below the overflow when it is the product of two numbers that are
rounded first: each rounding adds one part in 2^53 at most, and both together less than two units of
the greatest exponent. -/
def safe : ℚ :=
  (2 ^ 53 - 5 / 2) * 2 ^ (971 : ℤ)

theorem safe_mul_lt_overflow : safe * ((1 + 1 / 2 ^ 53) * (1 + 1 / 2 ^ 53)) < overflow := by
  rw [overflow_eq, safe, mul_right_comm]
  exact mul_lt_mul_of_pos_right (by norm_num) (by positivity)

theorem safe_lt_overflow : safe < overflow := by
  rw [overflow_eq, safe]
  exact mul_lt_mul_of_pos_right (by norm_num) (by positivity)

/-- The powers of ten that are multiplied by are those that the format has. -/
theorem tenTo_eq {exponent : ℕ} (hexponent : exponent ≤ 308) :
    tenTo exponent = .ofRatio false (powerOfTen exponent) 1 := by
  have hlength : (decimal 1).length = 1 := rfl
  have hsmall : ¬ (1 = 0 ∨ ((decimal 1).length : ℤ) + exponent < -330) := by omega
  have hgreat : ¬ 310 < ((decimal 1).length : ℤ) + exponent := by omega
  have hnone : (-(exponent : ℤ)).toNat = 0 := by omega
  rw [tenTo, Binary64.ofDecimal, if_neg hsmall, if_neg hgreat, hnone, Int.toNat_natCast,
    Nat.one_mul]
  rfl

/-- The product of a whole number and a power of ten is finite if its exact value is safe. -/
theorem isFinite_mul_tenTo {significand exponent : ℕ} (hexponent : exponent ≤ 308)
    (hsafe : (significand : ℚ) * 10 ^ exponent ≤ safe) :
    ((Binary64.ofNat significand).mul (tenTo exponent)).isFinite = true := by
  rw [tenTo_eq hexponent, Binary64.ofNat]
  refine isFinite_mul (isNegative_ofRatio _ _) (isNegative_ofRatio _ _) ?_
  rcases Nat.eq_zero_or_pos significand with rfl | hpos
  · have hzero : (Binary64.ofRatio false 0 1).toRat = 0 := by
      have hsignificand : (Binary64.ofRatio false 0 1).significand = 0 := by decide
      rw [Binary64.toRat, hsignificand, Nat.cast_zero, zero_mul, mul_zero]
    rw [Nat.cast_zero, zero_mul] at hsafe
    rw [hzero, zero_mul]
    exact hsafe.trans_lt safe_lt_overflow
  · have hone : (1 : ℚ) ≤ significand := Nat.one_le_cast.mpr hpos
    have hpower : (1 : ℚ) ≤ 10 ^ exponent := one_le_pow₀ (by norm_num)
    have hfirst : (significand : ℚ) < overflow :=
      ((le_mul_of_one_le_right (by positivity) hpower).trans hsafe).trans_lt safe_lt_overflow
    have hsecond : (10 : ℚ) ^ exponent < overflow :=
      ((le_mul_of_one_le_left (by positivity) hone).trans hsafe).trans_lt safe_lt_overflow
    have hsignificand := toRat_ofRatio_le_of_one_le Nat.one_pos hpos
      (by rwa [Nat.cast_one, div_one])
    have htenTo := toRat_ofRatio_le_of_one_le Nat.one_pos (powerOfTen_pos exponent)
      (by rwa [Nat.cast_one, div_one, cast_powerOfTen])
    rw [Nat.cast_one, div_one] at hsignificand htenTo
    rw [cast_powerOfTen] at htenTo
    calc (Binary64.ofRatio false significand 1).toRat *
          (Binary64.ofRatio false (powerOfTen exponent) 1).toRat
        ≤ significand * (1 + 1 / 2 ^ 53) * (10 ^ exponent * (1 + 1 / 2 ^ 53)) :=
          mul_le_mul hsignificand htenTo (Binary64.toRat_nonneg (isNegative_ofRatio _ _))
            (by positivity)
      _ = significand * 10 ^ exponent * ((1 + 1 / 2 ^ 53) * (1 + 1 / 2 ^ 53)) := by ring
      _ ≤ safe * ((1 + 1 / 2 ^ 53) * (1 + 1 / 2 ^ 53)) :=
          mul_le_mul_of_nonneg_right hsafe (by positivity)
      _ < overflow := safe_mul_lt_overflow

/-- A number can be scaled down by every power of ten. -/
theorem isSome_scale?_of_neg (x : Binary64) {exponent : ℤ} (hexponent : exponent < 0) :
    (scale? x exponent).isSome = true := by
  fun_induction scale? x exponent with
  | case1 => omega
  | case2 => omega
  | case3 => rfl
  | case4 => rfl
  | case5 => omega
  | case6 x exponent hfar hzero hbelow ih => exact ih (by omega)

/-- A whole number can be scaled by a power of ten if the exact value is safe. -/
theorem isSome_scale? {significand : ℕ} {exponent : ℤ}
    (hsafe : (significand : ℚ) * 10 ^ exponent ≤ safe) :
    (scale? (.ofNat significand) exponent).isSome = true := by
  rcases lt_or_ge exponent 0 with hbelow | habove
  · exact isSome_scale?_of_neg _ hbelow
  · obtain ⟨exponent, rfl⟩ := Int.eq_ofNat_of_zero_le habove
    rw [scale?, Int.natAbs_natCast]
    by_cases hnear : exponent ≤ 308
    · rw [zpow_natCast] at hsafe
      rw [if_pos hnear, if_pos habove, if_pos (isFinite_mul_tenTo hnear hsafe)]
      rfl
    · -- a power as great as this leaves room for nothing but zero
      have hzero : significand = 0 := by
        by_contra hpos
        have hone : (1 : ℚ) ≤ significand := Nat.one_le_cast.mpr (Nat.pos_of_ne_zero hpos)
        have hgreat : overflow ≤ (10 : ℚ) ^ (exponent : ℤ) := overflow_le_zpow (by omega)
        have hproduct := (le_mul_of_one_le_left (by positivity) hone).trans hsafe
        exact absurd (hgreat.trans hproduct) (not_le.mpr safe_lt_overflow)
      rw [if_neg hnear, hzero, if_pos (by decide)]
      rfl

/-- A literal that denotes a safe amount is read as a number. -/
theorem NumberLiteral.isSome_number? {literal : NumberLiteral}
    (hfits : digitsValue literal.whole < 2 ^ 64) (hsafe : literal.toRat ≤ safe) :
    literal.number?.isSome = true := by
  rw [number?, Option.isSome_map]
  exact isSome_scale? ((toRat_scaled_le hfits).trans hsafe)

/-! ### Finite positive numbers -/

/-- The text of a number is the text of a literal that is read as a number. -/
def IsReadBack (x : Binary64) : Prop :=
  ∃ literal : NumberLiteral, literal.IsPlain ∧ numberNotation.write x = literal.text ∧
    literal.number?.isSome = true

/-- A finite positive number is laid out by its digits. -/
theorem write_eq {x : Binary64} (hx : x.IsPositiveFinite) :
    numberNotation.write x = numberNotation.layOut (x.shortest .toEven) := by
  have hnan : x.isNaN = false := by rw [Binary64.isNaN, hx.1]; rfl
  rw [Notation.write, hnan, hx.1, hx.isNegative_eq_false]
  rfl

/-- A number whose shortest decimal is safe is read back. -/
theorem isReadBack_of_safe {x : Binary64} (hx : x.IsPositiveFinite)
    (hsafe : (x.significand + 1 / 2) * 2 ^ x.exponent ≤ safe) : IsReadBack x := by
  obtain ⟨hdigits, hvalue⟩ := Binary64.shortest_spec .toEven hx.significand_pos
  obtain ⟨literal, hlayout⟩ := exists_laysOut hdigits
  refine ⟨literal, hlayout.plain, (write_eq hx).trans hlayout.text, ?_⟩
  refine NumberLiteral.isSome_number? hlayout.fits ?_
  rw [hlayout.toRat]
  exact hvalue.trans hsafe

/-- What is not safe has the greatest exponent and one of the two greatest significands. -/
theorem fields_of_not_safe {x : Binary64} (hfinite : x.isFinite = true)
    (hgreat : safe < (x.significand + 1 / 2) * 2 ^ x.exponent) :
    x.exponent = 971 ∧ 2 ^ 53 - 2 ≤ x.significand := by
  have hbiased : x.biasedExponent < 0x7ff := of_decide_eq_true hfinite
  have hmost : x.exponent ≤ 971 := by
    unfold Binary64.exponent
    split <;> omega
  have hsignificand : (x.significand : ℚ) + 1 ≤ 2 ^ 53 := by exact_mod_cast x.significand_lt
  rcases hmost.eq_or_lt with hexponent | hless
  · refine ⟨hexponent, ?_⟩
    rw [safe, hexponent] at hgreat
    have hunits := lt_of_mul_lt_mul_right hgreat (by positivity)
    have hcast : (2 : ℚ) ^ 53 < x.significand + 3 := by linarith
    have hnatural : 2 ^ 53 < x.significand + 3 := by exact_mod_cast hcast
    omega
  · exfalso
    refine not_le.mpr hgreat ?_
    calc ((x.significand : ℚ) + 1 / 2) * 2 ^ x.exponent
        ≤ 2 ^ 53 * 2 ^ (970 : ℤ) := by
          refine mul_le_mul (by linarith) ?_ (by positivity) (by positivity)
          exact zpow_le_zpow_right₀ one_le_two (by omega)
      _ ≤ (2 ^ 53 - 5 / 2) * (2 * 2 ^ (970 : ℤ)) := by
          rw [← mul_assoc]
          exact mul_le_mul_of_nonneg_right (by norm_num) (by positivity)
      _ = safe := by
          rw [safe, ← zpow_one_add₀ two_ne_zero]
          rfl

/-- Only the two greatest numbers are not safe. -/
theorem eq_of_not_safe {x : Binary64} (hx : x.IsPositiveFinite)
    (hgreat : safe < (x.significand + 1 / 2) * 2 ^ x.exponent) :
    x = ⟨0x7feffffffffffffe⟩ ∨ x = ⟨0x7fefffffffffffff⟩ := by
  obtain ⟨hexponent, hleast⟩ := fields_of_not_safe hx.1 hgreat
  have hsign : x.bits.toNat < Binary64.signBit :=
    not_le.mp (of_decide_eq_false (hx.isNegative_eq_false))
  have hbiased : x.biasedExponent = 2046 := by
    unfold Binary64.exponent at hexponent
    split at hexponent <;> omega
  have hfraction : x.fraction = 2 ^ 52 - 2 ∨ x.fraction = 2 ^ 52 - 1 := by
    have hmost := x.significand_lt
    rw [Binary64.significand, hbiased, if_neg (by decide)] at hleast hmost
    unfold Binary64.fractions at hleast hmost
    omega
  have hbits : x.bits.toNat = 2046 * 2 ^ 52 + x.fraction := by
    unfold Binary64.biasedExponent Binary64.topExponent at hbiased
    unfold Binary64.fraction
    unfold Binary64.fractions at *
    unfold Binary64.signBit at hsign
    omega
  have heq (bits : UInt64) (hsame : x.bits.toNat = bits.toNat) : x = ⟨bits⟩ :=
    congrArg Binary64.mk (UInt64.toNat_inj.mp hsame)
  rcases hfraction with hfraction | hfraction
  · exact Or.inl (heq _ (by rw [hbits, hfraction]; rfl))
  · exact Or.inr (heq _ (by rw [hbits, hfraction]; rfl))

/-- Every finite positive number is read back. -/
theorem isReadBack {x : Binary64} (hx : x.IsPositiveFinite) : IsReadBack x := by
  rcases le_or_gt (((x.significand : ℚ) + 1 / 2) * 2 ^ x.exponent) safe with hsafe | hgreat
  · exact isReadBack_of_safe hx hsafe
  · rcases eq_of_not_safe hx hgreat with rfl | rfl
    · refine ⟨⟨false, ['1'], some "7976931348623155".toList, some 308⟩, ?_, ?_, ?_⟩
      · exact ⟨rfl, rfl, fun hhead ↦ absurd hhead (by decide), by decide⟩
      · decide +kernel
      · decide +kernel
    · refine ⟨⟨false, ['1'], some "7976931348623157".toList, some 308⟩, ?_, ?_, ?_⟩
      · exact ⟨rfl, rfl, fun hhead ↦ absurd hhead (by decide), by decide⟩
      · decide +kernel
      · decide +kernel

end SocketMetrics.Json
