import TokenLint.Rule.Basic

/-!
# Space around concatenation

The concatenation operator is to stand between whitespace, or at an end of the file.
-/

namespace TokenLint

namespace TokenStream

variable (stream : TokenStream)

/-- Whether whitespace, or nothing at all, stands before an index. -/
def hasSpaceBefore : Nat → Bool
  | 0 => true
  | index + 1 => stream.hasKind index .whitespace

/-- Whether whitespace, or nothing at all, stands after an index. -/
def hasSpaceAfter (index : Nat) : Bool :=
  stream.size ≤ index + 1 || stream.hasKind (index + 1) .whitespace

/-- The edits that put a space where one is missing around an index. -/
def spacingEdits (index : Nat) : List Edit :=
  (if stream.hasSpaceBefore index then [] else [⟨.before, index, " "⟩]) ++
    (if stream.hasSpaceAfter index then [] else [⟨.after, index, " "⟩])

end TokenStream

namespace Rule

/-- Reports a concatenation operator without whitespace around it. -/
def concatenationSpacing : Rule where
  id := "before_and_after_concatenate"
  name := "BeforeAndAfterConcatenate"
  category := "code_smell"
  description := "Concatenation operator without surrounding spaces."
  interest := [.concat]
  process stream index _ :=
    if stream.hasSpaceBefore index && stream.hasSpaceAfter index then .done none
    else
      reportAndFix
        (fixableErrorAt index "MissingSpace"
          "You must surround the concat operator by one space." [])
        (stream.spacingEdits index)

end Rule

end TokenLint
