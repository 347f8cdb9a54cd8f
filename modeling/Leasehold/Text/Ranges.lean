/-!
# Ranges of code points

A class of characters is a table of ranges with both ends included.
-/

namespace Leasehold.Text

/-- A code point lies in one of some ranges. -/
def among (ranges : List (Nat × Nat)) (n : Nat) : Bool := ranges.any fun r => r.1 ≤ n && n ≤ r.2

end Leasehold.Text
