import TokenLint.Rule.Basic

/-!
# Long array literals

`array(…)` can be written `[…]`.
-/

namespace TokenLint

namespace Rule

/-- Removes the keyword, and puts short brackets in the place of the parentheses. -/
def shortBracketEdits (index : Nat) (pair : BracketPair) : List Edit :=
  removals index pair.opener ++ [⟨.replace, pair.opener, "["⟩, ⟨.replace, pair.closer, "]"⟩]

/-- Reports an array literal in the long syntax. -/
def longArray : Rule where
  id := "traditional_array_syntax"
  name := "TraditionalArraySyntax"
  category := "code_style"
  description := "Long array() syntax instead of short [] syntax."
  interest := [.kwArray]
  process stream index _ :=
    match (stream.token? index).bind Token.parenthesis with
    | none => .done none
    | some pair =>
      reportAndFix
        (fixableWarningAt index "NotAllowed" "Traditional syntax array literal detected." [])
        (shortBracketEdits index pair)

end Rule

end TokenLint
