import SocketMetrics.Number.Decimal
/-!
Metric lines. A sample is one value of one metric at one time; its line holds the full name of the
metric, the time, the value, and the tags if there are any, with single spaces between them.
-/

set_option autoImplicit false
set_option relaxedAutoImplicit false

namespace SocketMetrics

open Number

/-- One value of a metric. -/
structure Sample where
  /-- The dotted name of the group to which the metric belongs. -/
  group : Text
  metric : Text
  timestamp : Int
  value : UInt64
  tags : Option Text
deriving DecidableEq, Repr

namespace Sample

/-- The full name of the metric. -/
def name (sample : Sample) : Text :=
  sample.group ++ '.' :: sample.metric

/-- The line of the sample, without its line feed. Empty tags are left out like missing ones. -/
def line (sample : Sample) : Text :=
  let untagged := sample.name ++ ' ' :: decimalInt sample.timestamp
    ++ ' ' :: decimal sample.value.toNat
  match sample.tags with
  | none | some [] => untagged
  | some tags => untagged ++ ' ' :: tags

end Sample

end SocketMetrics
