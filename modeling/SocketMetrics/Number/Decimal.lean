import SocketMetrics.Text.Basic
/-!
Whole numbers in decimal. `decimal` writes the canonical numeral, without leading zeros, and
`count?` reads a counter: an optional plus sign and digits, leading zeros allowed, below 2^64.
-/

set_option autoImplicit false
set_option relaxedAutoImplicit false

namespace SocketMetrics.Number

/-- The canonical numeral of a natural number. -/
def decimal (n : Nat) : Text :=
  Nat.toDigits 10 n

/-- The canonical numeral of an integer, with a minus sign if it is negative. -/
def decimalInt (i : Int) : Text :=
  if i < 0 then '-' :: decimal i.natAbs else decimal i.natAbs

/-- The value of a decimal digit. -/
def digitValue (c : Char) : Nat :=
  c.toNat - '0'.toNat

/-- The number that a row of decimal digits denotes. -/
def digitsValue (digits : Text) : Nat :=
  digits.foldl (fun value c ↦ 10 * value + digitValue c) 0

/-- Whether the text is a non-empty row of ASCII digits. -/
def isNumeral (text : Text) : Bool :=
  !text.isEmpty && text.all Char.isDigit

/-- The longest row of digits at the beginning, with what follows it. -/
def spanDigits (text : Text) : Text × Text :=
  (text.takeWhile Char.isDigit, text.dropWhile Char.isDigit)

/-- The power of ten with the given exponent. -/
def powerOfTen (exponent : Nat) : Nat :=
  Nat.pow 10 exponent

/-- A number as a 64-bit counter, if it fits. -/
def toCount? (n : Nat) : Option UInt64 :=
  if n < UInt64.size then some (UInt64.ofNat n) else none

/-- Reads a counter: an optional plus sign, then a numeral below 2^64. -/
def count? (text : Text) : Option UInt64 :=
  let digits := match text with
    | '+' :: rest => rest
    | _ => text
  if isNumeral digits then toCount? (digitsValue digits) else none

/-- The product of two counters, or the greatest counter if the product is greater. -/
def saturatingMul (a b : UInt64) : UInt64 :=
  UInt64.ofNat (min (a.toNat * b.toNat) (UInt64.size - 1))

/-- The difference of two counters, or zero if the second is greater. -/
def saturatingSub (a b : UInt64) : UInt64 :=
  UInt64.ofNat (a.toNat - b.toNat)

theorem toCount?_toNat (n : UInt64) : toCount? n.toNat = some n := by
  simp [toCount?, n.toNat_lt]

theorem toNat_saturatingMul (a b : UInt64) :
    (saturatingMul a b).toNat = min (a.toNat * b.toNat) (UInt64.size - 1) := by
  have hbound : min (a.toNat * b.toNat) (UInt64.size - 1) < UInt64.size :=
    Nat.lt_of_le_of_lt (Nat.min_le_right _ _) (by decide)
  exact UInt64.toNat_ofNat_of_lt' hbound

theorem toNat_saturatingSub (a b : UInt64) :
    (saturatingSub a b).toNat = a.toNat - b.toNat := by
  have := a.toNat_lt
  simp only [saturatingSub]
  exact UInt64.toNat_ofNat_of_lt' (by simp [UInt64.size]; omega)

end SocketMetrics.Number
