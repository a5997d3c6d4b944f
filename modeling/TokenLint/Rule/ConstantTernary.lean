import TokenLint.Rule.Basic
import TokenLint.Navigation.Ternary
import TokenLint.Text.Blank
import TokenLint.Text.LowerCase

/-!
# Ternaries that decide nothing

A ternary whose condition is a boolean literal always takes the same branch, and one
whose branches are both boolean literals says no more than its condition.
-/

namespace TokenLint

/-- A ternary: the first token of its condition, its `?` and `:`, and its last token. -/
structure Ternary where
  start : Nat
  question : Nat
  colon : Nat
  stop : Nat
  deriving DecidableEq

namespace TokenStream

variable (stream : TokenStream)

/-- The ternary whose `?` stands at an index. -/
def ternary? (index : Nat) : Option Ternary := do
  let start ← stream.conditionStart? index
  let colon ← stream.ternaryElse? index
  let stop ← stream.elseEnd? colon
  return ⟨start, index, colon, stop⟩

/-- The kinds of a condition, without whitespace, comments and parentheses. -/
def conditionKinds (ternary : Ternary) : List TokenKind :=
  (List.range' ternary.start (ternary.question - ternary.start)).filterMap fun index =>
    (stream.kind? index).filter fun kind =>
      !kind.isTrivia && kind ≠ .openParenthesis && kind ≠ .closeParenthesis

/-- The text between the question mark and the colon, without blanks around it. -/
def thenText (ternary : Ternary) : String :=
  Text.trim (stream.textBetween (ternary.question + 1) ternary.colon)

/-- The text behind the colon, without blanks around it. -/
def elseText (ternary : Ternary) : String :=
  Text.trim (stream.textBetween (ternary.colon + 1) (ternary.stop + 1))

end TokenStream

namespace Rule

/-- Whether a text is a truth value, in any case. -/
def isBooleanText (text : String) : Bool :=
  let lowered := Text.lower text
  lowered == "true" || lowered == "false"

/-- Reports a ternary, whose fix leaves nothing but the text of one branch. -/
def keepBranch (ternary : Ternary) (template kept : String) : RuleProgram (Option Int) :=
  reportAndFix (fixableErrorAt ternary.question "RemoveUseless" template [])
    (removals ternary.start (ternary.stop + 1) ++ [⟨.replace, ternary.question, kept⟩])

/-- Reports ternaries that decide nothing. -/
def constantTernary : Rule where
  id := "ternary_operator_could_be_simplified"
  name := "TernaryOperatorCouldBeSimplified"
  category := "control_flow"
  description := "Ternary with a constant condition or boolean-literal branches."
  interest := [.ternaryThen]
  process stream index _ :=
    match stream.ternary? index with
    | none => .done none
    | some ternary =>
      let positive := stream.thenText ternary
      let negative := stream.elseText ternary
      let condition := stream.conditionKinds ternary
      if condition = [.trueLiteral] ∧ !positive.isEmpty then
        keepBranch ternary "Condition returns true. Please only keep the positive part." positive
      else if condition = [.falseLiteral] then
        keepBranch ternary "Condition returns false. Please only keep the negative part." negative
      else if isBooleanText positive && isBooleanText negative then
        reportAll [warningAt index "BooleanBranches"
          ("Positive and negative variants can be skipped: " ++
            "the condition already returns a boolean.") []]
      else .done none

end Rule

end TokenLint
