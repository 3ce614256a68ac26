import SocketMetrics.Number.Binary64
/-!
Reading floating-point numbers from text. The literal is an optional sign before digits with an
optional point among or beside them and an optional exponent, or before one of the names of the
special values in any case. Nothing may surround it.
-/

set_option autoImplicit false
set_option relaxedAutoImplicit false

namespace SocketMetrics.Number

/-- A sign and what follows it; no sign counts as a plus. The flag tells a minus. -/
def splitSign : Text → Bool × Text
  | '-' :: rest => (true, rest)
  | '+' :: rest => (false, rest)
  | text => (false, text)

/-- Reads the exponent that ends a literal: nothing, or a letter and a signed row of digits. -/
def exponentPart? : Text → Option Int
  | [] => some 0
  | c :: rest =>
    if c = 'e' ∨ c = 'E' then
      let (negative, digits) := splitSign rest
      if isNumeral digits then
        some (if negative then -(digitsValue digits : Int) else digitsValue digits)
      else none
    else none

/-- Reads an unsigned literal as its digits, taken together, and the power of ten that scales
them. There is a digit before the point or behind it. -/
def unsignedLiteral? (text : Text) : Option (Nat × Int) :=
  let (whole, afterWhole) := spanDigits text
  let (places, rest) := match afterWhole with
    | '.' :: tail => spanDigits tail
    | _ => ([], afterWhole)
  if whole.isEmpty && places.isEmpty then none
  else (exponentPart? rest).map fun exponent ↦
    (digitsValue (whole ++ places), exponent - places.length)

namespace Binary64

/-- Reads a floating-point literal. -/
def ofLiteral? (text : Text) : Option Binary64 :=
  let (negative, rest) := splitSign text
  match unsignedLiteral? rest with
  | some (digits, exponent) => some (ofDecimal negative digits exponent)
  | none =>
    let name := rest.map Char.toLower
    if name = "nan".toList then some (nan negative)
    else if name = "inf".toList ∨ name = "infinity".toList then some (infinity negative)
    else none

end Binary64

end SocketMetrics.Number
