/-!
# Sets of characters given by ranges

A property of characters is tabulated as a list of inclusive code point ranges.
-/

namespace TokenLint.Text

/-- Inclusive ranges of code points. -/
abbrev CharRanges := List (Nat × Nat)

/-- Whether a character lies in one of the ranges. -/
def CharRanges.contains (ranges : CharRanges) (char : Char) : Bool :=
  ranges.any fun range => range.1 ≤ char.toNat && char.toNat ≤ range.2

end TokenLint.Text
