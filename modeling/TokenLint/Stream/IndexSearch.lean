/-!
# Searching a range of indexes

The nearest index with a property, looking up from a start or down from an end. All
navigation over a stream is stated with these two searches.
-/

namespace TokenLint

/-- The first index from `start` up to but not including `stop` with a property. -/
def firstIndex? (accepts : Nat → Bool) (start stop : Nat) : Option Nat :=
  if start < stop then
    if accepts start then some start else firstIndex? accepts (start + 1) stop
  else none
termination_by stop - start

/-- The last index below `stop` and not below `low` with a property. -/
def lastIndex? (accepts : Nat → Bool) (low : Nat) : Nat → Option Nat
  | 0 => none
  | index + 1 =>
    if index < low then none
    else if accepts index then some index
    else lastIndex? accepts low index

end TokenLint
