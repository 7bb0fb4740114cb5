/-! # Tables of ranges

A set of characters that follows no short rule is given by its closed ranges of numbers.

* **`inRanges n ranges`** — whether one of the ranges holds `n`, its ends included. -/

namespace PubSub

/-- Whether one of the ranges holds the number. -/
def inRanges (n : Nat) (ranges : List (Nat × Nat)) : Bool :=
  ranges.any fun range => range.1 ≤ n && n ≤ range.2

end PubSub
