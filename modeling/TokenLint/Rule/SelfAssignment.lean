import TokenLint.Rule.Basic
import TokenLint.Navigation.Statement
import TokenLint.Text.Blank

/-!
# Assignments that change nothing

A statement that assigns a variable to itself can go.
-/

namespace TokenLint

/-- A statement with an assignment: its first token, its operator and its semicolon. -/
structure AssignmentStatement where
  start : Nat
  operator : Nat
  stop : Nat
  deriving DecidableEq

namespace TokenStream

variable (stream : TokenStream)

/-- The statement around an assignment operator that stands in no bracket, if it begins with a
variable and ends with a semicolon. -/
def assignmentStatement? (index : Nat) : Option AssignmentStatement := do
  guard (stream.holdsAt (fun token => token.enclosingBracket.isNone) index)
  let start ← stream.statementStart? index
  guard (stream.hasKind start .variable)
  let stop ← stream.statementEnd? index
  guard (stream.hasKind stop .semicolon)
  return ⟨start, index, stop⟩

/-- Whether both sides of an assignment have the same text. -/
def isSelfAssignment (statement : AssignmentStatement) : Bool :=
  Text.trim (stream.textBetween statement.start statement.operator) ==
    Text.trim (stream.textBetween (statement.operator + 1) statement.stop)

/-- The whitespace tokens directly before an index, nearest first. -/
def blanksBefore : Nat → List Nat
  | 0 => []
  | index + 1 => if stream.hasKind index .whitespace then index :: blanksBefore index else []

/-- The edits that take a statement away with the whitespace before it. -/
def statementRemovals (statement : AssignmentStatement) : List Edit :=
  Rule.removals statement.start (statement.stop + 1) ++
    (stream.blanksBefore statement.start).map Rule.removal

end TokenStream

namespace Rule

/-- Reports a statement that assigns a variable to itself. -/
def selfAssignment : Rule where
  id := "silly_assignment"
  name := "SillyAssignment"
  category := "probable_bugs"
  description := "Assignment of a variable to itself."
  interest := [.equal]
  process stream index _ :=
    match (stream.assignmentStatement? index).filter stream.isSelfAssignment with
    | none => .done none
    | some statement =>
      reportAndFix
        (fixableErrorAt index "RemoveUseless"
          "The left and the right parts of assignment are equal." [])
        (stream.statementRemovals statement)

end Rule

end TokenLint
