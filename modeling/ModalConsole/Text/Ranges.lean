/-!
# Sets of characters as ranges

A property of characters is given by the closed ranges of code points that have it, in
ascending order.
-/

namespace ModalConsole.Text

/-- Is the code point in one of the closed ranges? -/
def inRanges (ranges : List (Nat × Nat)) (n : Nat) : Bool :=
  ranges.any fun r => r.1 ≤ n && n ≤ r.2

end ModalConsole.Text
