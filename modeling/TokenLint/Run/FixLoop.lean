import TokenLint.Run.Dispatch
import TokenLint.Run.FileResult

/-!
# The fix loop

A file is passed over, its fixes are applied, and the result is passed over again,
until a pass applies nothing. The loop gives up fixing when the fixes come back to an
earlier source or to the problems of the pass before, and when its budget of fixing
passes is spent; one more pass then only reports. Fixes after which the source can no
longer be read as tokens are dropped, and the source before them is reported on.
-/

namespace TokenLint

/-- A pass over a source. -/
structure PassRecord where
  source : String
  trace : PassTrace

namespace PassRecord

/-- Whether a pass was one that fixes. -/
def fixing (record : PassRecord) : Bool := record.trace.pass.fixing

/-- The source that a pass leaves. -/
def output (record : PassRecord) : String := record.trace.pass.contents

end PassRecord

/-- Fixes that were dropped: the codes of the reports they belonged to, and why. -/
structure Rejection where
  codes : List String
  reason : String
  deriving DecidableEq

/-- Where the loop stands: the rules as the last pass left them, a source that can be read, with its
stream, the problems fixed on the way to it, the passes so far, the sources met, and the problems of
the pass before. -/
structure FixProgress where
  dispatcher : Dispatcher
  source : String
  stream : TokenStream
  fixed : List Diagnostic
  records : List PassRecord
  seen : List String
  previous : Option (List Diagnostic.Signature)

/-- How the loop ended: its last source, the problems fixed, all passes with the last one apart, and
why it stopped fixing. -/
structure FixRun where
  source : String
  fixed : List Diagnostic
  records : List PassRecord
  last : PassRecord
  converged : Bool
  budgetExceeded : Bool
  rejection : Option Rejection

/-- Why a run over a file has no result at all. -/
inductive RunFault where
  | dispatch (error : DispatchError)
  | unknownCast (name : String)
  deriving DecidableEq

namespace RunFault

/-- The class of a fault. -/
def label : RunFault → String
  | dispatch error => error.label
  | unknownCast _ => "KeyError"

/-- The wording of a fault. -/
def message : RunFault → String
  | dispatch error => error.message
  | unknownCast name => Text.quoted name

end RunFault

namespace FixProgress

/-- The beginning of a loop: no pass has been made, and no source been met but the given one. -/
def start (dispatcher : Dispatcher) (source : String) (stream : TokenStream) : FixProgress :=
  ⟨dispatcher, source, stream, [], [], [source], none⟩

variable (progress : FixProgress)

/-- The pass over the source that the loop stands at, and the rules as it leaves them. -/
def pass (fixing : Bool) : Dispatcher × PassRecord :=
  let (dispatcher, trace) := progress.dispatcher.dispatch progress.stream fixing
  (dispatcher, ⟨progress.source, trace⟩)

/-- The loop ended by one more pass. -/
def finish (last : PassRecord) (converged budgetExceeded : Bool) (rejection : Option Rejection) :
    FixRun :=
  ⟨progress.source, progress.fixed, progress.records ++ [last], last, converged, budgetExceeded,
    rejection⟩

/-- Ends the loop with one more pass that only reports. -/
def finishReporting (budgetExceeded : Bool) (rejection : Option Rejection) : FixRun :=
  progress.finish (progress.pass false).2 false budgetExceeded rejection

/-- Whether a pass brings nothing new: the problems of the pass before, or a source met before. -/
def repeats (record : PassRecord) : Bool :=
  some record.trace.pass.signature == progress.previous || progress.seen.contains record.output

/-- The loop after a pass whose output can be read. -/
def advance (dispatcher : Dispatcher) (record : PassRecord) (stream : TokenStream) :
    FixProgress where
  dispatcher
  source := record.output
  stream
  fixed := progress.fixed ++ record.trace.pass.fixed
  records := progress.records ++ [record]
  seen := record.output :: progress.seen
  previous := some record.trace.pass.signature

/-- The loop after a pass whose output cannot be read. -/
def retreat (dispatcher : Dispatcher) (record : PassRecord) : FixProgress :=
  { progress with dispatcher, records := progress.records ++ [record] }

end FixProgress

/-- What is said of a pass whose output cannot be read. -/
def PassRecord.rejection (record : PassRecord) (error : Lexer.SourceError) : Rejection :=
  ⟨record.trace.pass.fixed.map Diagnostic.code, error.message⟩

/-- Runs fixing passes, with a number of them left after the next one. -/
def fixFrom (budget : Nat) (progress : FixProgress) : Except RunFault FixRun :=
  let (dispatcher, record) := progress.pass true
  if record.trace.pass.ledger.changed then
    let repeated := progress.repeats record
    match tokenize record.output with
    | .error (.unknownCast name) => .error (.unknownCast name)
    | .error (.malformed error) =>
      .ok ((progress.retreat dispatcher record).finishReporting (!repeated && budget == 0)
        (some (record.rejection error)))
    | .ok stream =>
      let next := progress.advance dispatcher record stream
      if repeated then .ok (next.finishReporting false none)
      else
        match budget with
        | 0 => .ok (next.finishReporting true none)
        | budget + 1 => fixFrom budget next
  else .ok (progress.finish record true false none)

namespace FixRun

variable (run : FixRun)

/-- The note on a problem whose fix was dropped. -/
def rejectionNote (code reason : String) : String :=
  "Fix for " ++ code ++ " discarded: the fixed source does not tokenize (" ++ reason ++ ")"

/-- The note on a problem that the spent budget left. -/
def budgetNote (maxIterations : Nat) : String :=
  "Fix loop stopped after " ++ toString maxIterations ++ " iteration(s); fix not applied"

/-- Adds to a problem why it was not fixed. -/
def annotate (maxIterations : Nat) (diagnostic : Diagnostic) : Diagnostic :=
  let dropped := run.rejection.filter fun rejection => rejection.codes.contains diagnostic.code
  match dropped with
  | some rejection =>
    { diagnostic with note := some (rejectionNote diagnostic.code rejection.reason) }
  | none =>
    if run.budgetExceeded && diagnostic.fixable then
      { diagnostic with note := some (budgetNote maxIterations) }
    else diagnostic

/-- The problems that are left after the last pass. -/
def remaining (maxIterations : Nat) : List Diagnostic :=
  (run.last.trace.pass.sorted.filter fun diagnostic => diagnostic.fixState ≠ .fixed).map
    (run.annotate maxIterations)

end FixRun

/-- What a run over files needs to know: the rules, their options, whether to fix, and the number of
fixing passes allowed, which is at least one. -/
structure LintSettings where
  rules : List Rule
  options : Value
  fix : Bool
  maxIterations : Nat

/-- A run over one file: its result and the passes made. -/
structure FileRun where
  result : FileResult
  records : List PassRecord

/-- The run over a source that was read into a stream. -/
def FixRun.toFileRun (run : FixRun) (settings : LintSettings) (path source : String) : FileRun where
  result := {
    path
    state := .done
    source
    fixedSource := run.source
    diagnostics := run.remaining settings.maxIterations
    fixed := run.fixed
    passes := run.records.length
    converged := run.converged
    budgetExceeded := run.budgetExceeded
    error := none }
  records := run.records

/-- The passes over a source. -/
def LintSettings.passes (settings : LintSettings) (progress : FixProgress) :
    Except RunFault FixRun :=
  if settings.fix then fixFrom (settings.maxIterations - 1) progress
  else .ok (progress.finish (progress.pass false).2 true false none)

/-- Lints a source. One that is malformed has a result without a pass, and only a fault has none. -/
def LintSettings.lint (settings : LintSettings) (path source : String) :
    Except RunFault FileRun :=
  match Dispatcher.ofRules settings.rules settings.options with
  | .error error => .error (.dispatch error)
  | .ok dispatcher =>
    match tokenize source with
    | .error (.unknownCast name) => .error (.unknownCast name)
    | .error (.malformed error) =>
      .ok ⟨.failure path source Diagnostic.tokenizerErrorCode error.message error.position, []⟩
    | .ok stream =>
      (settings.passes (.start dispatcher source stream)).map fun run =>
        run.toFileRun settings path source

end TokenLint
