import SocketMetrics.Number.Shortest
import SocketMetrics.Proofs.Number.Range
/-!
# The size of the shortest decimal

The decimal with the fewest digits is found on a grid, or it is the exact one. Wherever it comes
from, it has a digit that is not zero and exceeds the number that it identifies by half a unit at
most (`shortest_spec`).
-/

set_option autoImplicit false
set_option relaxedAutoImplicit false

namespace SocketMetrics.Number

namespace Scientific

/-- The number that the digits and the power of ten denote. -/
def toRat (d : Scientific) : ℚ :=
  d.digits * 10 ^ d.exponent

/-- Zeros at the end go into the power of ten. -/
theorem toRat_normalize (d : Scientific) : d.normalize.toRat = d.toRat := by
  fun_induction normalize d with
  | case1 d hzero ih =>
    have hdigits : (d.digits : ℚ) = (d.digits / 10 : ℕ) * 10 := by
      exact_mod_cast (Nat.div_mul_cancel (Nat.dvd_of_mod_eq_zero hzero.2)).symm
    rw [ih, toRat, toRat, hdigits, zpow_add_one₀ (by norm_num)]
    ring
  | case2 d hlast => rfl

theorem digits_normalize_pos {d : Scientific} (hdigits : 0 < d.digits) :
    0 < d.normalize.digits := by
  fun_induction normalize d with
  | case1 d hzero ih => exact ih (by simp only; omega)
  | case2 d hlast => exact hdigits

end Scientific

namespace Binary64

variable {x : Binary64}

/-- A point of the grid that is found is above zero and exceeds the number by half a unit at
most. -/
theorem shortestOnGrid?_spec {tie : Tie} {grid : ℤ} {digits : ℕ} (hx : 0 < x.significand)
    (hfound : x.shortestOnGrid? tie grid = some digits) :
    0 < digits ∧ (Scientific.mk digits grid).toRat ≤ (x.significand + 1 / 2) * 2 ^ x.exponent := by
  unfold shortestOnGrid? at hfound
  extract_lets quarters low high unit gridScale unitScale inside below at hfound
  have hinside : inside digits = true := by
    split at hfound
    · cases hfound
    · next hbelow _ => rwa [← Option.some.inj hfound]
    · next _ habove => rwa [← Option.some.inj hfound]
    · next hbelow habove =>
      split at hfound
      all_goals first
        | rwa [← Option.some.inj hfound]
        | (split at hfound <;> rwa [← Option.some.inj hfound])
  have hbounds : low * unitScale ≤ digits * gridScale ∧ digits * gridScale ≤ high * unitScale := by
    simp only [inside] at hinside
    split at hinside
    · exact of_decide_eq_true hinside
    · exact (of_decide_eq_true hinside).imp Nat.le_of_lt Nat.le_of_lt
  have hlow : 0 < low := by
    simp only [low, quarters]
    split <;> omega
  have hunitScale : 0 < unitScale := by
    simp only [unitScale, Nat.shiftLeft_eq]
    exact Nat.mul_pos (powerOfTen_pos _) (Nat.two_pow_pos _)
  refine ⟨Nat.pos_of_mul_pos_right ((Nat.mul_pos hlow hunitScale).trans_le hbounds.1), ?_⟩
  have habove : (digits : ℚ) * 10 ^ grid ≤ high * 2 ^ unit := by
    have hcast : ((digits * gridScale : ℕ) : ℚ) ≤ (high * unitScale : ℕ) :=
      Nat.cast_le.mpr hbounds.2
    simp only [gridScale, unitScale, Nat.shiftLeft_eq] at hcast
    push_cast [cast_powerOfTen] at hcast
    rw [zpow_eq_div (by norm_num), zpow_eq_div two_ne_zero, mul_div_assoc', mul_div_assoc',
      div_le_div_iff₀ (by positivity) (by positivity)]
    linarith
  calc (Scientific.mk digits grid).toRat ≤ high * 2 ^ unit := habove
    _ = (x.significand + 1 / 2) * 2 ^ x.exponent := by
      simp only [high, quarters, unit]
      rw [zpow_sub₀ two_ne_zero]
      push_cast
      ring

theorem toRat_exactDecimal (x : Binary64) :
    x.exactDecimal.toRat = x.significand * 2 ^ x.exponent := by
  unfold exactDecimal Scientific.toRat
  rw [zpow_eq_div two_ne_zero]
  split
  · next hwhole =>
    have hnone : (-x.exponent).toNat = 0 := by omega
    simp [Nat.shiftLeft_eq, hnone]
  · next hplaces =>
    have hnone : x.exponent.toNat = 0 := by omega
    have hfive : ((Nat.pow 5 (-x.exponent).toNat : ℕ) : ℚ) = 5 ^ (-x.exponent).toNat :=
      Nat.cast_pow 5 _
    have hten : (10 : ℚ) ^ (-x.exponent).toNat =
        2 ^ (-x.exponent).toNat * 5 ^ (-x.exponent).toNat := by
      rw [← mul_pow]
      norm_num
    rw [zpow_eq_div (by norm_num), hnone, Nat.cast_mul, hfive, hten]
    field_simp

theorem digits_exactDecimal_pos (hx : 0 < x.significand) : 0 < x.exactDecimal.digits := by
  unfold exactDecimal
  split
  · rw [Nat.shiftLeft_eq]
    exact Nat.mul_pos hx (Nat.two_pow_pos _)
  · exact Nat.mul_pos hx (Nat.pow_pos (by decide))

/-- The shortest decimal of a number that is not zero has a digit that is not zero, and exceeds the
number by half a unit at most. -/
theorem shortest_spec (tie : Tie) (hx : 0 < x.significand) :
    0 < (x.shortest tie).digits ∧
      (x.shortest tie).toRat ≤ (x.significand + 1 / 2) * 2 ^ x.exponent := by
  rw [shortest, if_neg hx.ne']
  extract_lets top found
  rw [Scientific.toRat_normalize]
  suffices hspec : 0 < (found.getD x.exactDecimal).digits ∧
      (found.getD x.exactDecimal).toRat ≤ (x.significand + 1 / 2) * 2 ^ x.exponent from
    ⟨Scientific.digits_normalize_pos hspec.1, hspec.2⟩
  cases hfound : found with
  | none =>
    refine ⟨digits_exactDecimal_pos hx, ?_⟩
    rw [Option.getD_none, toRat_exactDecimal]
    exact mul_le_mul_of_nonneg_right (by linarith) (by positivity)
  | some d =>
    obtain ⟨places, -, hplaces⟩ := List.exists_of_findSome?_eq_some hfound
    obtain ⟨digits, hdigits, rfl⟩ := Option.map_eq_some_iff.mp hplaces
    exact shortestOnGrid?_spec hx hdigits

end Binary64

end SocketMetrics.Number
