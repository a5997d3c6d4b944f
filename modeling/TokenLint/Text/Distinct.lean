/-!
# Sorted texts

Texts in increasing order of their characters, each of them once.
-/

namespace TokenLint

/-- Texts in increasing order without repetition. -/
def sortedDistinct (texts : List String) : List String := texts.eraseDups.mergeSort (· ≤ ·)

end TokenLint
