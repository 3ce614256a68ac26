import SocketMetrics.Number.Binary64
/-!
The fewest decimal digits that identify a floating-point number. The numbers that round to a given
one form an interval around it, with its ends when the significand is even. On ever finer decimal
grids the two neighbours of the number are tried; the first grid with a neighbour in the interval
is taken, of two such neighbours the nearer one, and the rule for ties decides between two that
are equally near.
-/

set_option autoImplicit false
set_option relaxedAutoImplicit false

namespace SocketMetrics.Number

/-- Which of two equally near decimals is chosen. -/
inductive Tie where
  /-- The one whose last digit is even. -/
  | toEven
  /-- The greater one. -/
  | upward
deriving DecidableEq, Repr

/-- The number `digits * 10 ^ exponent`. -/
structure Scientific where
  digits : Nat
  exponent : Int
deriving DecidableEq, Repr

namespace Scientific

/-- The same number, with digits that do not end in a zero unless they are zero. -/
def normalize (d : Scientific) : Scientific :=
  if d.digits ≠ 0 ∧ d.digits % 10 = 0 then normalize ⟨d.digits / 10, d.exponent + 1⟩ else d
termination_by d.digits
decreasing_by omega

end Scientific

namespace Binary64

/-- The neighbour of a finite number on the grid `10 ^ grid` that rounds to it, the nearer one if
both do. The ends of the interval of numbers that round to it are counted in quarters of the last
place; below a power of two the lower end is half as far away. -/
def shortestOnGrid? (tie : Tie) (x : Binary64) (grid : Int) : Option Nat :=
  let quarters := 4 * x.significand
  let low := if x.fraction = 0 ∧ 1 < x.biasedExponent then quarters - 1 else quarters - 2
  let high := quarters + 2
  let unit := x.exponent - 2
  -- A point `c` of the grid and a count `n` of quarters compare as `c * gridScale` and
  -- `n * unitScale`.
  let gridScale := powerOfTen grid.toNat <<< (-unit).toNat
  let unitScale := powerOfTen (-grid).toNat <<< unit.toNat
  let inside (c : Nat) : Bool :=
    if x.significand % 2 = 0 then low * unitScale ≤ c * gridScale ∧ c * gridScale ≤ high * unitScale
    else low * unitScale < c * gridScale ∧ c * gridScale < high * unitScale
  let below := quarters * unitScale / gridScale
  match inside below, inside (below + 1) with
  | false, false => none
  | true, false => some below
  | false, true => some (below + 1)
  | true, true =>
    match compare (2 * (quarters * unitScale)) ((2 * below + 1) * gridScale), tie with
    | .lt, _ => some below
    | .gt, _ => some (below + 1)
    | .eq, .upward => some (below + 1)
    | .eq, .toEven => if below % 2 = 0 then some below else some (below + 1)

/-- The exact value of the magnitude of a finite number in decimal. -/
def exactDecimal (x : Binary64) : Scientific :=
  if 0 ≤ x.exponent then ⟨x.significand <<< x.exponent.toNat, 0⟩
  else ⟨x.significand * Nat.pow 5 (-x.exponent).toNat, x.exponent⟩

/-- The magnitude of a finite number by the fewest digits that identify it. -/
def shortest (tie : Tie) (x : Binary64) : Scientific :=
  if x.significand = 0 then ⟨0, 0⟩
  else
    -- The number is below ten to this power, so that its first digit is on no coarser grid.
    let top : Int := ((x.significand.log2 : Int) + 1 + x.exponent) * 30103 / 100000 + 2
    let found := (List.range 20).findSome? fun (places : Nat) ↦
      let grid := top - 1 - (places : Int)
      (shortestOnGrid? tie x grid).map fun digits ↦ Scientific.mk digits grid
    (found.getD x.exactDecimal).normalize

end Binary64

end SocketMetrics.Number
