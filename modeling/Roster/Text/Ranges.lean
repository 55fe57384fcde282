/-!
# Sets of characters as ranges

A property of characters is a list of closed ranges of code points, ascending and apart.
Membership is a search of the list.
-/

namespace Roster.Text

/-- Closed ranges of code points, ascending and apart. -/
abbrev Ranges := List (Nat × Nat)

namespace Ranges

/-- Whether a code point lies in one of the ranges. -/
def contains (ranges : Ranges) (code : Nat) : Bool :=
  ranges.any fun range => range.1 ≤ code && code ≤ range.2

end Ranges

end Roster.Text
