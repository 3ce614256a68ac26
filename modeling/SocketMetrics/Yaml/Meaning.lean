import SocketMetrics.Number.Literal
import SocketMetrics.Text.Hexadecimal
/-!
What a plain scalar of YAML means: nothing, a truth value, a whole number in one of four radixes, a
floating-point number, or its own text. Digits with a leading zero are no decimal whole number.
-/

set_option autoImplicit false
set_option relaxedAutoImplicit false

namespace SocketMetrics.Yaml

open Number

/-- Whether a text is a name for nothing. -/
def isNullName (text : Text) : Bool :=
  ["null", "Null", "NULL", "~"].any fun name ↦ name.toList == text

/-- Whether a text is the name of a truth value. -/
def isBoolName (text : Text) : Bool :=
  ["true", "True", "TRUE", "false", "False", "FALSE"].any fun name ↦ name.toList == text

/-- The value of a row of digits of the radix, if there are any. -/
def magnitude? (radix : Nat) (digits : Text) : Option Nat :=
  if digits.isEmpty then none
  else digits.foldlM (fun value c ↦ do
    let digit ← Text.hexDigit? c
    if digit < radix then some (radix * value + digit) else none) 0

/-- Whether a text consists of several digits, the first of them zero, behind an optional sign. -/
def hasLeadingZero (text : Text) : Bool :=
  match (splitSign text).2 with
  | '0' :: rest => isNumeral rest
  | _ => false

/-- The magnitude of an unsigned whole number in one of the radixes; the full text decides whether
leading zeros stand in the way of a decimal one. -/
def radixMagnitude? (full unsigned : Text) : Option Nat :=
  let decimal := if hasLeadingZero full then none else magnitude? 10 unsigned
  match unsigned with
  | '0' :: 'x' :: digits => magnitude? 16 digits
  | '0' :: 'o' :: digits => magnitude? 8 digits
  | '0' :: 'b' :: digits => magnitude? 2 digits
  | _ => decimal

/-- The whole number that a text denotes, if it is not negative; a plus sign may stand in front. -/
def natural? (text : Text) : Option Nat :=
  radixMagnitude? text <| match text with
    | '+' :: rest => rest
    | _ => text

/-- The magnitude of the negative whole number that a text denotes. -/
def negative? (text : Text) : Option Nat :=
  match text with
  | '-' :: rest => radixMagnitude? text rest
  | _ => none

/-- The floating-point number that a text denotes. Infinity and the quiet number have names of
their own, and other numbers have to be finite. -/
def float? (text : Text) : Option Binary64 :=
  let unsigned := match text with
    | '+' :: rest => rest
    | _ => text
  let named (names : List String) (text : Text) : Bool := names.any fun name ↦ name.toList == text
  if named [".inf", ".Inf", ".INF"] unsigned then some (.infinity false)
  else if named ["-.inf", "-.Inf", "-.INF"] text then some (.infinity true)
  else if named [".nan", ".NaN", ".NAN"] text then some (.nan false)
  else if text.head? = some '+' ∧ (splitSign unsigned).2 ≠ unsigned then none
  else (Binary64.ofLiteral? unsigned).filter Binary64.isFinite

/-- Whether a text would be read as something else than text. -/
def isAmbiguous (text : Text) : Bool :=
  text.isEmpty || isNullName text || isBoolName text
    || ((natural? text).filter (· < 1 <<< 128)).isSome
    || ((negative? text).filter (· ≤ 1 <<< 127)).isSome
    || hasLeadingZero text || (float? text).isSome

end SocketMetrics.Yaml
