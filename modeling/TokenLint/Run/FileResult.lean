import TokenLint.Diagnostic.Basic

/-!
# The result of a file

What a run over one file found, what it fixed, and how it ended.
-/

namespace TokenLint

/-- How the work on a file ended. -/
inductive FileState where
  | done
  | failed
  | cancelled
  deriving DecidableEq, Repr

/-- The word for the end of a run. -/
def FileState.label : FileState → String
  | done => "done"
  | failed => "failed"
  | cancelled => "cancelled"

/-- The result of a file: `source` is its text as read. `diagnostics` are the problems that are left
and `fixed` those that were fixed, in order; `passes` counts the passes over the file. -/
structure FileResult where
  path : String
  state : FileState
  source : String
  fixedSource : String
  diagnostics : List Diagnostic
  fixed : List Diagnostic
  passes : Nat
  converged : Bool
  budgetExceeded : Bool
  error : Option String
  deriving DecidableEq

namespace FileResult

/-- The result of a file whose source was not read. -/
def unread (path : String) (state : FileState) : FileResult :=
  ⟨path, state, "", "", [], [], 0, false, false, none⟩

/-- The result of a file that failed for a reason given at a place. -/
def failure (path source code message : String) (position : Position) : FileResult :=
  { unread path .failed with
    source
    fixedSource := source
    diagnostics := [.internal code message position]
    error := some message }

variable (result : FileResult)

/-- Whether the fixed source differs from what was read. -/
def changed : Bool := result.fixedSource != result.source

/-- The errors that are left. -/
def errors : List Diagnostic := Diagnostic.ofSeverity .error result.diagnostics

/-- The warnings that are left. -/
def warnings : List Diagnostic := Diagnostic.ofSeverity .warning result.diagnostics

end FileResult

end TokenLint
