/-!
# Classes of characters as ranges of code points

A class of characters is a list of closed ranges of code points, in ascending order.
-/

namespace FrameLisp.Text

/-- A class of characters: closed ranges of code points. -/
abbrev CodeRanges := List (Nat × Nat)

/-- Whether a character belongs to the class. -/
def CodeRanges.has (ranges : CodeRanges) (c : Char) : Bool :=
  ranges.any fun range => range.1 ≤ c.toNat && c.toNat ≤ range.2

end FrameLisp.Text
