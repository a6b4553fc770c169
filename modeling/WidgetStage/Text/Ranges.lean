/-!
# Ranges of code points

A property of characters is kept as a list of ranges of code points, both ends included.

* `inRanges` — whether a code point lies in one of them.
-/

namespace WidgetStage.Text

/-- Whether `n` lies in one of the ranges. -/
def inRanges (ranges : List (Nat × Nat)) (n : Nat) : Bool :=
  ranges.any fun r => r.1 ≤ n && n ≤ r.2

end WidgetStage.Text
