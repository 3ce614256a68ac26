import SocketMetrics.Number.Binary64
/-!
Lengths of time in whole nanoseconds. `ofSeconds?` takes a floating-point count of seconds to the
nearest nanosecond, and refuses what is negative, not finite, or no less than 2^64 seconds.
-/

set_option autoImplicit false
set_option relaxedAutoImplicit false

namespace SocketMetrics.Number

/-- A length of time. -/
structure Duration where
  nanoseconds : Nat
deriving DecidableEq, Repr

namespace Duration

/-- The number of nanoseconds in a second. -/
def nanosPerSecond : Nat := 1000000000

def ofSeconds (seconds : Nat) : Duration :=
  ⟨seconds * nanosPerSecond⟩

/-- The whole seconds of a duration. -/
def seconds (d : Duration) : Nat :=
  d.nanoseconds / nanosPerSecond

/-- The nanoseconds beyond the whole seconds. -/
def subsecond (d : Duration) : Nat :=
  d.nanoseconds % nanosPerSecond

/-- The nearest duration to a number of seconds, a tie to the even count of nanoseconds. -/
def ofSeconds? (x : Binary64) : Option Duration :=
  if !x.isFinite || (x.isNegative && !x.isZero) then none
  else
    let d : Duration := ⟨nearest (x.numerator * nanosPerSecond) x.denominator⟩
    if d.seconds < UInt64.size then some d else none

/-- The duration as a floating-point number of seconds: the whole seconds and the fraction are
each rounded, and then their sum. -/
def toSeconds (d : Duration) : Binary64 :=
  (Binary64.ofNat d.seconds).add (Binary64.ofRatio false d.subsecond nanosPerSecond)

end Duration

end SocketMetrics.Number
