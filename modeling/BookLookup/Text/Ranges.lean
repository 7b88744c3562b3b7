/-!
# Ranges of code points

A property of characters is given by closed ranges of code points, in
increasing order and apart.
-/

namespace BookLookup
namespace Ranges

/-- Whether a code point lies in one of some ranges. -/
def contains (ranges : List (Nat × Nat)) (code : Nat) : Bool :=
  ranges.any fun range => range.1 ≤ code && code ≤ range.2

end Ranges
end BookLookup
