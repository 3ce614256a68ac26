import SocketMetrics.Text.Basic
/-!
Hexadecimal digits, of either case.
-/

set_option autoImplicit false
set_option relaxedAutoImplicit false

namespace SocketMetrics.Text

/-- The value of a hexadecimal digit. -/
def hexDigit? (c : Char) : Option Nat :=
  if c.isDigit then some (c.toNat - '0'.toNat)
  else if 'a' ≤ c ∧ c ≤ 'f' then some (c.toNat - 'a'.toNat + 10)
  else if 'A' ≤ c ∧ c ≤ 'F' then some (c.toNat - 'A'.toNat + 10)
  else none

/-- The number that a row of hexadecimal digits denotes. -/
def hexValue? (digits : Text) : Option Nat :=
  digits.foldlM (fun value c ↦ (hexDigit? c).map (16 * value + ·)) 0

/-- The character with the given code point, unless that is none of a character. -/
def ofCodePoint? (code : Nat) : Option Char :=
  if code.isValidChar then some (Char.ofNat code) else none

end SocketMetrics.Text
