import SocketMetrics.Number.Decimal
/-!
Binary floating-point numbers of 64 bits. A number is its bit pattern; a finite one denotes its
significand times a power of two, up to sign. All arithmetic is exact on natural numbers and then
rounded once, by `ofRatio`, to the nearest number with ties to the even significand.
-/

set_option autoImplicit false
set_option relaxedAutoImplicit false

namespace SocketMetrics.Number

/-- The quotient rounded to the nearest natural number, a tie to the even one. -/
def nearest (num den : Nat) : Nat :=
  let quotient := num / den
  match compare (2 * (num % den)) den with
  | .lt => quotient
  | .gt => quotient + 1
  | .eq => if quotient % 2 = 0 then quotient else quotient + 1

/-- The greatest exponent whose power of two is at most the quotient of two positive numbers. -/
def floorLog2 (num den : Nat) : Int :=
  let estimate : Int := (num.log2 : Int) - den.log2
  if den <<< estimate.toNat ≤ num <<< (-estimate).toNat then estimate else estimate - 1

/-- A floating-point number of 64 bits, as its bit pattern. -/
structure Binary64 where
  bits : UInt64
deriving DecidableEq, Repr

namespace Binary64

/-- The sign bit alone. -/
def signBit : Nat := 0x8000000000000000

/-- The number of significands that share an exponent: as many as 52 bits can tell apart. -/
def fractions : Nat := 0x10000000000000

/-- The greatest biased exponent, which finite numbers do not have. -/
def topExponent : Nat := 0x7ff

/-- Whether the sign bit is set. -/
def isNegative (x : Binary64) : Bool :=
  signBit ≤ x.bits.toNat

/-- The eleven bits behind the sign. -/
def biasedExponent (x : Binary64) : Nat :=
  x.bits.toNat / fractions % (topExponent + 1)

/-- The low 52 bits. -/
def fraction (x : Binary64) : Nat :=
  x.bits.toNat % fractions

def isFinite (x : Binary64) : Bool :=
  x.biasedExponent < topExponent

def isNaN (x : Binary64) : Bool :=
  !x.isFinite && x.fraction != 0

/-- The whole number that a finite number is, up to sign and a power of two. -/
def significand (x : Binary64) : Nat :=
  if x.biasedExponent = 0 then x.fraction else fractions + x.fraction

/-- The power of two by which the significand of a finite number is scaled. -/
def exponent (x : Binary64) : Int :=
  if x.biasedExponent = 0 then -1074 else (x.biasedExponent : Int) - 1075

/-- Whether the number is zero, of either sign. -/
def isZero (x : Binary64) : Bool :=
  x.isFinite && x.significand == 0

/-- Whether the number is greater than zero; infinity is. -/
def isPositive (x : Binary64) : Bool :=
  !x.isNegative && !x.isNaN && !x.isZero

/-- The numerator of the magnitude of a finite number, over `denominator`. -/
def numerator (x : Binary64) : Nat :=
  x.significand <<< x.exponent.toNat

/-- The power of two that divides `numerator` in the magnitude of a finite number. -/
def denominator (x : Binary64) : Nat :=
  1 <<< (-x.exponent).toNat

/-- The number with the given sign and the given bits behind it. -/
def ofMagnitude (negative : Bool) (magnitude : Nat) : Binary64 :=
  ⟨UInt64.ofNat (if negative then signBit + magnitude else magnitude)⟩

def zero (negative : Bool) : Binary64 :=
  ofMagnitude negative 0

def infinity (negative : Bool) : Binary64 :=
  ofMagnitude negative (topExponent * fractions)

/-- The quiet number that stands for no value. -/
def nan (negative : Bool) : Binary64 :=
  ofMagnitude negative (topExponent * fractions + fractions / 2)

/-- The nearest number to a quotient with positive denominator; infinity beyond the greatest. -/
def ofRatio (negative : Bool) (num den : Nat) : Binary64 :=
  if num = 0 then zero negative
  else
    let exponent := max (floorLog2 num den - 52) (-1074)
    let significand := nearest (num <<< (-exponent).toNat) (den <<< exponent.toNat)
    -- A significand that rounding makes too long carries into the exponent, as it should.
    let magnitude := (exponent + 1074).toNat * fractions + significand
    if magnitude < topExponent * fractions then ofMagnitude negative magnitude
    else infinity negative

/-- The nearest number to `digits * 10 ^ exponent`. Powers of ten far beyond the range of the
format are not computed: their outcome is zero or infinity. -/
def ofDecimal (negative : Bool) (digits : Nat) (exponent : Int) : Binary64 :=
  let scale : Int := (decimal digits).length + exponent
  if digits = 0 ∨ scale < -330 then zero negative
  else if 310 < scale then infinity negative
  else ofRatio negative (digits * powerOfTen exponent.toNat) (powerOfTen (-exponent).toNat)

/-- The nearest number to a natural number. -/
def ofNat (n : Nat) : Binary64 :=
  ofRatio false n 1

/-- The rounded sum of two finite numbers that are not negative. -/
def add (x y : Binary64) : Binary64 :=
  ofRatio false (x.numerator * y.denominator + y.numerator * x.denominator)
    (x.denominator * y.denominator)

/-- The rounded product of two finite numbers. -/
def mul (x y : Binary64) : Binary64 :=
  ofRatio (x.isNegative != y.isNegative) (x.numerator * y.numerator)
    (x.denominator * y.denominator)

/-- The rounded quotient of two finite numbers, the second one not zero. -/
def div (x y : Binary64) : Binary64 :=
  ofRatio (x.isNegative != y.isNegative) (x.numerator * y.denominator)
    (x.denominator * y.numerator)

end Binary64

end SocketMetrics.Number
