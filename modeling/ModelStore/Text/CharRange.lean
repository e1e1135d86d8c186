/-!
# Character classes as ranges

A class of characters is a list of closed ranges of code points in increasing order. Every class this
library asks about (blank, digit, printable, cased) is data of the Unicode standard, version 14, and is
kept in the module named for it; membership is decided here, once.
-/

namespace ModelStore.Text

/-- Closed ranges of code points, in increasing order. -/
abbrev CharRanges := List (Nat × Nat)

/-- A code point is in the class if one of its ranges holds it. -/
def CharRanges.holds (ranges : CharRanges) (point : Nat) : Bool :=
  ranges.any fun range => range.1 ≤ point && point ≤ range.2

end ModelStore.Text
