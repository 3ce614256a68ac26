/-!
Closed ranges of code points, the shape in which the properties of characters are tabulated.
A table lists its ranges in ascending order, and `Text.CodePointRange.covers` asks whether a
character lies in one of them.
-/

set_option autoImplicit false
set_option relaxedAutoImplicit false

namespace SocketMetrics.Text

/-- The first and the last code point of a range. -/
abbrev CodePointRange := Nat × Nat

namespace CodePointRange

/-- Whether the character lies in one of the ranges. -/
def covers (ranges : List CodePointRange) (c : Char) : Bool :=
  ranges.any fun range ↦ range.1 ≤ c.toNat && c.toNat ≤ range.2

theorem covers_iff {ranges : List CodePointRange} {c : Char} :
    covers ranges c = true ↔ ∃ range ∈ ranges, range.1 ≤ c.toNat ∧ c.toNat ≤ range.2 := by
  simp [covers]

end CodePointRange

end SocketMetrics.Text
