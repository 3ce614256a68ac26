import SocketMetrics.Number.Literal
/-!
Numbers in JSON. A number is read with a significand of 64 bits, which one multiplication or
division by a power of ten then scales, so that the result may differ from the nearest
floating-point number in its last places. Digits of the whole part beyond 64 bits only raise the
power of ten, and the places behind the first one that does not fit are passed over.
-/

set_option autoImplicit false
set_option relaxedAutoImplicit false

namespace SocketMetrics.Json

open Number

/-- A number as it is written. -/
structure NumberLiteral where
  negative : Bool
  /-- The digits in front of the point. -/
  whole : Text
  /-- The digits behind the point, if there is one. -/
  places : Option Text
  /-- The power of ten, if one is given. -/
  exponent : Option Int
deriving DecidableEq, Repr

/-- A whole number below 2^64 and a power of ten. -/
structure Scaled where
  significand : Nat
  exponent : Int
deriving DecidableEq, Repr

namespace Scaled

/-- The significand with a digit behind it, if 64 bits hold it. -/
def appended? (scaled : Scaled) (digit : Char) : Option Nat :=
  let significand := 10 * scaled.significand + digitValue digit
  if significand < UInt64.size then some significand else none

/-- Takes up the digits in front of the point. From the first that does not fit they are only
counted. -/
def ofWhole (scaled : Scaled) : Text → Scaled
  | [] => scaled
  | digit :: rest =>
    match scaled.appended? digit with
    | some significand => ofWhole { scaled with significand } rest
    | none => { scaled with exponent := scaled.exponent + (rest.length + 1) }

/-- Takes up the digits behind the point, until one does not fit. -/
def addPlaces (scaled : Scaled) : Text → Scaled
  | [] => scaled
  | digit :: rest =>
    match scaled.appended? digit with
    | some significand => addPlaces ⟨significand, scaled.exponent - 1⟩ rest
    | none => scaled

end Scaled

/-- The nearest number to a power of ten. -/
def tenTo (exponent : Nat) : Binary64 :=
  .ofDecimal false 1 exponent

/-- The number scaled by a power of ten, unless that is beyond the greatest finite number. -/
def scale? (x : Binary64) (exponent : Int) : Option Binary64 :=
  if exponent.natAbs ≤ 308 then
    if 0 ≤ exponent then
      let scaled := x.mul (tenTo exponent.natAbs)
      if scaled.isFinite then some scaled else none
    else some (x.div (tenTo exponent.natAbs))
  else if x.isZero then some x
  else if 0 ≤ exponent then none
  else scale? (x.div (tenTo 308)) (exponent + 308)
termination_by exponent.natAbs
decreasing_by omega

namespace NumberLiteral

/-- The significand and the power of ten of a number. -/
def scaled (literal : NumberLiteral) : Scaled :=
  let number := (Scaled.ofWhole ⟨0, 0⟩ literal.whole).addPlaces (literal.places.getD [])
  { number with exponent := number.exponent + literal.exponent.getD 0 }

/-- The number as a counter: it has neither sign nor point nor power of ten. -/
def count? (literal : NumberLiteral) : Option UInt64 :=
  if literal.negative || literal.places.isSome || literal.exponent.isSome then none
  else toCount? (digitsValue literal.whole)

/-- The number as a floating-point number, if it is not too great. -/
def number? (literal : NumberLiteral) : Option Binary64 :=
  (scale? (.ofNat literal.scaled.significand) literal.scaled.exponent).map fun magnitude ↦
    if literal.negative then .ofMagnitude true magnitude.bits.toNat else magnitude

end NumberLiteral

/-- Takes a minus sign off the beginning of a text, if there is one. -/
def takeSign (text : Text) : Bool × Text :=
  match text with
  | '-' :: rest => (true, rest)
  | _ => (false, text)

/-- Takes a row of digits off the beginning of a text. -/
def takeDigits? (text : Text) : Option (Text × Text) :=
  let (digits, rest) := spanDigits text
  if digits.isEmpty then none else some (digits, rest)

/-- Takes the digits in front of the point off the beginning of a text. No digit follows a zero. -/
def takeWhole? (text : Text) : Option (Text × Text) :=
  match text with
  | '0' :: rest => some (['0'], rest)
  | _ => takeDigits? text

/-- Takes the point and the digits behind it off the beginning of a text, if there is a point. -/
def takePlaces? (text : Text) : Option (Option Text × Text) :=
  match text with
  | '.' :: rest => (takeDigits? rest).map fun (digits, rest) ↦ (some digits, rest)
  | _ => some (none, text)

/-- Takes the power of ten off the beginning of a text, if one is given. -/
def takeExponent? (text : Text) : Option (Option Int × Text) :=
  match text with
  | 'e' :: rest | 'E' :: rest =>
    let (below, rest) := splitSign rest
    (takeDigits? rest).map fun (digits, rest) ↦
      let size : Int := digitsValue digits
      (some (if below then -size else size), rest)
  | _ => some (none, text)

/-- Takes a number off the beginning of a text. -/
def numberLiteral? (text : Text) : Option (NumberLiteral × Text) := do
  let (negative, text) := takeSign text
  let (whole, text) ← takeWhole? text
  let (places, text) ← takePlaces? text
  let (exponent, text) ← takeExponent? text
  return (⟨negative, whole, places, exponent⟩, text)

end SocketMetrics.Json
