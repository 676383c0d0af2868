/-!
# Sets of code points as ranges
-/

namespace Stencil.Text

set_option autoImplicit false

/-- Whether a number lies in one of some ranges, ends included. The ranges are in ascending order,
so the search stops at the first one that starts above the number. -/
def inRanges : List (Nat × Nat) → Nat → Bool
  | [], _ => false
  | (lo, hi) :: rs, n => if n < lo then false else n ≤ hi || inRanges rs n

end Stencil.Text
