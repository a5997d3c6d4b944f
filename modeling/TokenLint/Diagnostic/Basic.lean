import TokenLint.Token.Basic

/-!
# Diagnostics

A problem found in a file, what became of its fix, and the order in which problems
are listed.
-/

namespace TokenLint

/-- How serious a problem is. -/
inductive Severity where
  | error
  | warning
  deriving DecidableEq, Repr

/-- The word for a severity. -/
def Severity.label : Severity → String
  | error => "error"
  | warning => "warning"

/-- What became of the fix of a problem. -/
inductive FixState where
  | unfixed
  | fixed
  | conflicted
  deriving DecidableEq, Repr

/-- The word for a state. -/
def FixState.label : FixState → String
  | unfixed => "unfixed"
  | fixed => "fixed"
  | conflicted => "conflicted"

/-- A problem found in a file. The code is the rule's identifier and the rule's own short code
with a dot between them; the token index may lie outside the stream. -/
structure Diagnostic where
  code : String
  severity : Severity
  message : String
  tokenIndex : Int
  position : Position
  fixable : Bool
  fixState : FixState
  note : Option String
  deriving DecidableEq

namespace Diagnostic

/-- The code of the problem that a rule failed. -/
def ruleErrorCode : String := "internal.rule_error"

/-- Code of the diagnostic for a source that cannot be read as tokens. -/
def tokenizerErrorCode : String := "internal.tokenizer"

/-- The code of the problem that a file could not be read or worked on. -/
def fileErrorCode : String := "internal.io"

/-- A diagnostic of the program itself at a place in a file. -/
def internal (code message : String) (position : Position) : Diagnostic where
  code
  severity := .error
  message
  tokenIndex := 0
  position
  fixable := false
  fixState := .unfixed
  note := none

/-- What stands before the last dot, and everything if there is none. -/
def beforeLastDot (chars : List Char) : List Char :=
  match chars.reverse.dropWhile (· ≠ '.') with
  | _ :: before => before.reverse
  | [] => chars

/-- The identifier of the rule that reported a problem. -/
def ruleId (diagnostic : Diagnostic) : String :=
  String.ofList (beforeLastDot diagnostic.code.toList)

/-- What is compared to tell whether two passes found the same problems. -/
structure Signature where
  code : String
  position : Position
  message : String
  deriving DecidableEq

/-- What a diagnostic counts as where two passes are compared. -/
def signature (diagnostic : Diagnostic) : Signature :=
  ⟨diagnostic.code, diagnostic.position, diagnostic.message⟩

/-- Whether one problem is listed before or with another: by line, then column, then code. -/
def listedBefore (left right : Diagnostic) : Bool :=
  if left.position.line ≠ right.position.line then left.position.line < right.position.line
  else if left.position.column ≠ right.position.column then
    left.position.column < right.position.column
  else left.code ≤ right.code

/-- Problems in the order in which they are listed; equal ones keep their order. -/
def sorted (diagnostics : List Diagnostic) : List Diagnostic :=
  diagnostics.mergeSort listedBefore

/-- The diagnostics of one severity, in their order. -/
def ofSeverity (severity : Severity) (diagnostics : List Diagnostic) : List Diagnostic :=
  diagnostics.filter fun diagnostic => diagnostic.severity = severity

end Diagnostic

end TokenLint
