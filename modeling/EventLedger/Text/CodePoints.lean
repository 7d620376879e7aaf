/-!
# Classes of code points

A class is a list of ranges of code points, both ends of a range included.
-/
namespace EventLedger.Text

/-- Whether a code point lies in one of the ranges. -/
def inRanges (ranges : List (Nat × Nat)) (code : Nat) : Bool :=
  ranges.any fun range => range.1 ≤ code && code ≤ range.2

end EventLedger.Text
