import TokenLint.Rule.Basic
import TokenLint.Navigation.Search
import TokenLint.Text.Blank
import TokenLint.Text.LowerCase

/-!
# The order of catch clauses

A class that an earlier clause catches is never caught again, and nothing is left for
the clauses after a first one that catches every exception.
-/

namespace TokenLint

/-- A catch clause: its keyword and the class names that it catches. -/
structure CatchClause where
  index : Nat
  names : List String
  deriving DecidableEq

/-- The key under which class names are the same: without leading backslashes and case. -/
def classKey (name : String) : String :=
  Text.lower (Text.trimStartSet (fun char => char = '\\') name)

/-- The class names in a catch clause's parenthesis. Name parts are joined until an alternative
or the variable begins. -/
def joinClassNames (current : String) : List Token → List String
  | [] => if current.isEmpty then [] else [current]
  | token :: rest =>
    if token.kind = .identifier ∨ token.kind = .namespaceSeparator then
      joinClassNames (current ++ token.content) rest
    else if token.kind = .bitwiseOr ∨ token.kind = .variable then
      (if current.isEmpty then [] else [current]) ++ joinClassNames "" rest
    else joinClassNames current rest

namespace TokenStream

variable (stream : TokenStream)

/-- The class names between two brackets. -/
def caughtNames (pair : BracketPair) : List String :=
  joinClassNames "" (stream.tokens.extract (pair.opener + 1) pair.closer).toList

/-- The catch clauses that follow the block which closes at an index. -/
def catchChain (closer : Nat) : List CatchClause :=
  match stream.nextCode? (closer + 1) with
  | none => []
  | some index =>
    match (stream.token? index).filter fun token => token.kind = .kwCatch with
    | none => []
    | some token =>
      match token.parenthesis, token.scope.bind Scope.closer with
      | some pair, some bodyCloser =>
        let clause : CatchClause := ⟨index, stream.caughtNames pair⟩
        if closer < bodyCloser ∧ bodyCloser < stream.size then
          clause :: catchChain bodyCloser
        else [clause]
      | _, _ => []
termination_by stream.size - closer

end TokenStream

namespace Rule

/-- Reports of the names that were caught before, where `seen` holds the keys caught so far. -/
def duplicateReports (seen : List String) : List (Nat × String) → List Report
  | [] => []
  | (index, name) :: rest =>
    let key := classKey name
    (if seen.contains key then
      [errorAt index "Duplicate" "You catch two times the Exception: %s." [.text name]]
    else []) ++ duplicateReports (key :: seen) rest

/-- The report of a first clause that catches every exception while others follow it. -/
def genericReports : List CatchClause → List Report
  | first :: _ :: _ =>
    if first.names.any fun name => classKey name == "exception" then
      [errorAt first.index "GenericFirst" "You can't catch \\Exception in first." []]
    else []
  | _ => []

/-- Reports catch clauses that can never be reached. -/
def catchOrder : Rule where
  id := "wrong_catch_order"
  name := "WrongCatchOrder"
  category := "control_flow"
  description := "Exception caught twice, or Exception caught first."
  interest := [.kwTry]
  process stream index _ :=
    match ((stream.token? index).bind Token.scope).bind Scope.closer with
    | none => .done none
    | some closer =>
      let clauses := stream.catchChain closer
      let caught := clauses.flatMap fun clause => clause.names.map fun name => (clause.index, name)
      reportAll (duplicateReports [] caught ++ genericReports clauses)

end Rule

end TokenLint
