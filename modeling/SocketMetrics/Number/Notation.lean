import SocketMetrics.Number.Shortest
/-!
How floating-point numbers are laid out in text. A `Notation` fixes the decisions of one output
format; the digits are always the fewest that identify the number. `fixed` writes a number with a
given count of decimal places instead, its exact value rounded with ties to even.
-/

set_option autoImplicit false
set_option relaxedAutoImplicit false

namespace SocketMetrics.Number

/-- The digits of `digits * 10 ^ exponent` with the point in its place, and no exponent. -/
def positional (d : Scientific) : Text :=
  let digits := decimal d.digits
  if 0 ≤ d.exponent then digits ++ List.replicate d.exponent.toNat '0'
  else
    let places := (-d.exponent).toNat
    let padded := List.replicate (places + 1 - digits.length) '0' ++ digits
    padded.take (padded.length - places) ++ '.' :: padded.drop (padded.length - places)

/-- The layout of the floating-point numbers of one format. -/
structure Notation where
  tie : Tie
  /-- The exponents of the first digit, from the first up to the second of the pair, that are
  written out in full; without a pair all of them are. -/
  spelledOut : Option (Int × Int)
  /-- Whether a whole number that is written out in full ends in `.0`. -/
  pointZero : Bool
  /-- Whether a positive exponent bears its sign. -/
  exponentPlus : Bool
  nan : Text
  negativeNan : Text
  infinity : Text
  negativeInfinity : Text

namespace Notation

/-- The layout of a magnitude that is given by its digits. -/
def layOut (layout : Notation) (d : Scientific) : Text :=
  let digits := decimal d.digits
  let leading : Int := d.exponent + digits.length - 1
  let inFull := match layout.spelledOut with
    | none => true
    | some (first, last) => decide (first ≤ leading ∧ leading ≤ last)
  if inFull then
    positional d ++ if layout.pointZero && decide (0 ≤ d.exponent) then ['.', '0'] else []
  else
    let mantissa := match digits with
      | first :: second :: rest => first :: '.' :: second :: rest
      | _ => digits
    let sign := if 0 ≤ leading ∧ layout.exponentPlus then ['+'] else []
    mantissa ++ 'e' :: sign ++ decimalInt leading

/-- The text of a number. -/
def write (layout : Notation) (x : Binary64) : Text :=
  if x.isNaN then if x.isNegative then layout.negativeNan else layout.nan
  else if !x.isFinite then if x.isNegative then layout.negativeInfinity else layout.infinity
  else
    let magnitude := layout.layOut (x.shortest layout.tie)
    if x.isNegative then '-' :: magnitude else magnitude

/-- Numbers in messages: written out in full, whole ones without a point. -/
def plain : Notation where
  tie := .upward
  spelledOut := none
  pointZero := false
  exponentPlus := false
  nan := "NaN".toList
  negativeNan := "NaN".toList
  infinity := "inf".toList
  negativeInfinity := "-inf".toList

end Notation

/-- The exact value of a finite number with the given count of places, ties to even. -/
def fixed (places : Nat) (x : Binary64) : Text :=
  let scaled := nearest (x.numerator * powerOfTen places) x.denominator
  let magnitude := if places = 0 then decimal scaled
    else positional ⟨scaled, -(places : Int)⟩
  if x.isNegative then '-' :: magnitude else magnitude

end SocketMetrics.Number
