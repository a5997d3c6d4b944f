import TokenLint.Diagnostic.Basic
import TokenLint.Fix.Ledger
import TokenLint.Message.Template

/-!
# The record of a pass

What one pass over a stream has reported and changed so far. A report is accepted
once for each code, token and origin; in a fixing pass an accepted report that can be
fixed is offered to the ledger at once.
-/

namespace TokenLint

/-- A report as a rule makes it: a message template with its arguments, the token it is about, and
the rule's short code. -/
structure Report where
  template : String
  arguments : List Value
  index : Int
  shortCode : String
  severity : Severity
  fixable : Bool

/-- What makes a report the same as an earlier one. -/
structure ReportKey where
  code : String
  index : Int
  origin : String
  deriving DecidableEq

/-- The state of a pass: its stream, whether reports are offered for fixing, the accepted reports in
order, and the ledger of its edits. -/
structure Pass where
  stream : TokenStream
  fixing : Bool
  reports : Array Diagnostic
  seen : List ReportKey
  ledger : Ledger

namespace Pass

/-- The state before anything is reported. -/
def start (stream : TokenStream) (fixing : Bool) : Pass :=
  ⟨stream, fixing, #[], [], .empty stream.size⟩

variable (pass : Pass)

/-- The place of a token; outside the stream, the start of the file. -/
def positionOf (index : Int) : Position :=
  if index < 0 then .start
  else ((pass.stream.token? index.toNat).map Token.position).getD .start

/-- Lists a diagnostic, unless one with its key has been listed in this pass. The index is its place
in the list. -/
def accept (key : ReportKey) (message : String) (severity : Severity) (fixable : Bool) :
    Pass × Option Nat :=
  if pass.seen.contains key then (pass, none)
  else
    let diagnostic : Diagnostic := {
      code := key.code
      severity
      message
      tokenIndex := key.index
      position := pass.positionOf key.index
      fixable
      fixState := .unfixed
      note := none }
    ({ pass with reports := pass.reports.push diagnostic, seen := key :: pass.seen },
      some pass.reports.size)

/-- Accepts an error of the program itself. -/
def acceptInternal (code message : String) (index : Int) (origin : String) : Pass × Option Nat :=
  pass.accept ⟨code, index, origin⟩ message .error false

/-- Accepts a report of a rule. The answer is true only if the rule should fix the problem now: the
pass is fixing, the report can be fixed, and it is new. -/
def report (ruleId : String) (report : Report) : Except TemplateError (Pass × Bool) := do
  let code := ruleId ++ "." ++ report.shortCode
  let message ← renderTemplate report.template report.arguments
  match pass.accept ⟨code, report.index, ""⟩ message report.severity report.fixable with
  | (accepted, none) => return (accepted, false)
  | (accepted, some number) =>
    if report.fixable && pass.fixing then
      return ({ accepted with ledger := accepted.ledger.offer ⟨number, code⟩ }, true)
    else return (accepted, false)

/-- Marks the report that a commit was bound to. -/
def settle (verdict : Verdict) : Pass :=
  match verdict with
  | .nothing => pass
  | .fixed report =>
    { pass with reports := pass.reports.modify report fun diagnostic =>
        { diagnostic with fixState := .fixed } }
  | .conflicted report conflict =>
    { pass with reports := pass.reports.modify report fun diagnostic =>
        { diagnostic with fixState := .conflicted, note := some conflict.message } }

/-- Takes over the outcome of a call on the ledger. -/
def take (commitment : Commitment) : Pass :=
  ({ pass with ledger := commitment.ledger } : Pass).settle commitment.verdict

/-- The accepted reports in the order in which they are listed. -/
def sorted : List Diagnostic := Diagnostic.sorted pass.reports.toList

/-- What is compared to tell whether two passes found the same problems. -/
def signature : List Diagnostic.Signature := pass.sorted.map Diagnostic.signature

/-- The reports whose changesets were committed, in order. -/
def fixed : List Diagnostic := pass.ledger.fixed.filterMap fun number => pass.reports[number]?

/-- The source with committed edits applied. -/
def contents : String := pass.ledger.contents pass.stream

end Pass

end TokenLint
