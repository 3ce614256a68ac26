import SocketMetrics.Proofs.Number.Literal
/-!
# Integers in decimal

`integer?` reads an integer: a sign, which may be missing, and a numeral. The canonical numeral of
an integer is the numeral of its magnitude behind the sign that it has (`splitSign_decimalInt`), and
is read as the integer again (`integer?_decimalInt`).
-/

set_option autoImplicit false
set_option relaxedAutoImplicit false

namespace SocketMetrics.Number

/-- Reads an integer: a sign, which may be missing, and digits. -/
def integer? (text : Text) : Option ℤ :=
  if isNumeral (splitSign text).2 then
    some (signed (splitSign text).1 (digitsValue (splitSign text).2 : ℤ))
  else none

/-- The canonical numeral of an integer is that of its magnitude, behind a minus sign if the integer
is negative. -/
theorem splitSign_decimalInt (i : ℤ) :
    splitSign (decimalInt i) = (decide (i < 0), decimal i.natAbs) := by
  have hdigits : ∀ c ∈ (decimal i.natAbs).head?, c ≠ '+' ∧ c ≠ '-' := by
    intro c hc
    exact ne_sign_of_isDigit
      ((isNumeral_iff.mp (isNumeral_decimal i.natAbs)).2 c (List.mem_of_mem_head? hc))
  by_cases hbelow : i < 0
  · rw [decimalInt, if_pos hbelow, decide_eq_true hbelow]
    exact splitSign_append .minus hdigits
  · rw [decimalInt, if_neg hbelow, decide_eq_false hbelow]
    exact splitSign_append .missing hdigits

/-- An integer is its magnitude under its sign. -/
theorem signed_natAbs (i : ℤ) : signed (decide (i < 0)) (i.natAbs : ℤ) = i := by
  by_cases hbelow : i < 0
  · rw [decide_eq_true hbelow, signed, if_pos rfl]
    omega
  · rw [decide_eq_false hbelow, signed, if_neg Bool.false_ne_true]
    omega

/-- The canonical numeral of an integer is read as the integer. -/
theorem integer?_decimalInt (i : ℤ) : integer? (decimalInt i) = some i := by
  rw [integer?, splitSign_decimalInt, if_pos (isNumeral_decimal i.natAbs), digitsValue_decimal,
    signed_natAbs]

end SocketMetrics.Number
