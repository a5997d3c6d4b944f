import TokenLint.Rule.Basic
import TokenLint.Value.Reading

/-!
# Dispatch

One pass over a stream: the tokens in order, and for each of them the rules that want
to see it, in order of their identifiers. A rule that fails on a token loses the edits
of its open changeset and nothing else happens to the pass; the failure is reported at
the token. The contexts of the rules outlive a pass and are cleared when the next one
starts.
-/

namespace TokenLint

/-- A call of a rule on a token. -/
structure RuleCall where
  ruleId : String
  index : Nat
  deriving DecidableEq

/-- A call that failed. -/
structure RuleFailure where
  ruleId : String
  index : Nat
  fault : RuleFault
  deriving DecidableEq

/-- The wording of a failed call. -/
def RuleFailure.message (failure : RuleFailure) : String :=
  "Rule '" ++ failure.ruleId ++ "' failed on token " ++ toString failure.index ++ ": " ++
    failure.fault.label ++ ": " ++ failure.fault.message

/-- A pass with the calls that were made in it and those that failed, in order. -/
structure PassTrace where
  pass : Pass
  calls : Array RuleCall
  failures : Array RuleFailure

/-- A rule with its options and what it remembers. -/
structure RuleContext where
  rule : Rule
  options : Table
  memory : Memory

/-- A context that remembers nothing. -/
def RuleContext.cleared (context : RuleContext) : RuleContext := { context with memory := [] }

/-- A rule at work in a pass, with the index before which it wants no tokens. -/
structure RuleSlot extends RuleContext where
  resume : Int

/-- A rule at the beginning of a pass: its context is cleared, and every token is still before it.
-/
def RuleContext.startPass (context : RuleContext) : RuleSlot := ⟨context.cleared, 0⟩

/-- A pass between two calls: no changeset is open and no report is on offer. -/
def Pass.betweenCalls (pass : Pass) : Pass :=
  { pass with ledger := pass.ledger.rollback.clearOffer }

/-- Lists the problem that a rule failed. -/
def Pass.reportFailure (pass : Pass) (failure : RuleFailure) : Pass :=
  (pass.acceptInternal Diagnostic.ruleErrorCode failure.message failure.index failure.ruleId).1

namespace RuleSlot

variable (slot : RuleSlot)

/-- Whether a rule is to be called on a token: it asks for the kind and has not gone past the index.
-/
def wants (token : Token) : Bool :=
  slot.rule.interest.contains token.kind && slot.resume ≤ (token.index : Int)

/-- Where a rule wants to go on after it answered on a token. -/
def resumeAfter (index : Nat) (answer : Option Int) : Int :=
  match answer with
  | some next => if (index : Int) < next then next else slot.resume
  | none => slot.resume

/-- Calls a rule on a token. -/
def visit (index : Nat) (trace : PassTrace) : RuleSlot × PassTrace :=
  let calls := trace.calls.push ⟨slot.rule.id, index⟩
  let outcome := (slot.rule.process trace.pass.stream index slot.options).run slot.rule.id
    ⟨trace.pass, slot.memory⟩
  let pass := outcome.state.pass.betweenCalls
  let slot := { slot with memory := outcome.state.memory }
  match outcome.result with
  | .ok answer =>
    ({ slot with resume := slot.resumeAfter index answer }, { trace with pass, calls })
  | .error fault =>
    let failure : RuleFailure := ⟨slot.rule.id, index, fault⟩
    (slot, ⟨pass.reportFailure failure, calls, trace.failures.push failure⟩)

end RuleSlot

/-- Calls the rules that want to see a token, one after the other. -/
def visitAll (token : Token) (trace : PassTrace) : List RuleSlot → List RuleSlot × PassTrace
  | [] => ([], trace)
  | slot :: rest =>
    let (slot, trace) := if slot.wants token then slot.visit token.index trace else (slot, trace)
    let (rest, trace) := visitAll token trace rest
    (slot :: rest, trace)

/-- Why no pass can be made. -/
inductive DispatchError where
  | duplicateIds (ids : List String)
  | options (error : ReadingError)
  deriving DecidableEq

namespace DispatchError

/-- The class of a refusal. -/
def label : DispatchError → String
  | duplicateIds _ => "ValueError"
  | options error => error.label

/-- The wording of a refusal. -/
def message : DispatchError → String
  | duplicateIds ids =>
    "Duplicate rule ids in active set: " ++ (Value.list (ids.map Value.text)).display
  | options error => error.message

end DispatchError

/-- The active rules in their contexts, in order of their identifiers. -/
structure Dispatcher where
  contexts : List RuleContext

namespace Dispatcher

/-- The options of a rule among those of all rules. -/
def optionsFor (options : Value) (id : String) : Except ReadingError Table :=
  if options.isTrue then do
    match (← options.entriesFor "get").get? id with
    | some own => own.asTable
    | none => return []
  else .ok []

/-- The dispatcher of some rules, whose identifiers must differ. -/
def ofRules (rules : List Rule) (options : Value) : Except DispatchError Dispatcher :=
  let sorted := rules.mergeSort fun left right => left.id ≤ right.id
  let ids := sorted.map Rule.id
  if ids.Nodup then
    match sorted.mapM fun rule =>
        (optionsFor options rule.id).map fun own => (⟨rule, own, []⟩ : RuleContext) with
    | .ok contexts => .ok ⟨contexts⟩
    | .error error => .error (.options error)
  else .error (.duplicateIds ids)

variable (dispatcher : Dispatcher)

/-- The rules, in the order in which they are called. -/
def rules : List Rule := dispatcher.contexts.map RuleContext.rule

/-- The rules that ask for a kind, in the order in which they are called. -/
def rulesFor (kind : TokenKind) : List Rule :=
  dispatcher.rules.filter fun rule => rule.interest.contains kind

/-- All rules at the beginning of a pass. -/
def slots : List RuleSlot := dispatcher.contexts.map RuleContext.startPass

/-- One pass over a stream, and the contexts as it leaves them. -/
def dispatch (stream : TokenStream) (fixing : Bool) : Dispatcher × PassTrace :=
  let (slots, trace) := stream.tokens.toList.foldl
    (fun state token => visitAll token state.2 state.1)
    (dispatcher.slots, ⟨.start stream fixing, #[], #[]⟩)
  (⟨slots.map RuleSlot.toRuleContext⟩, trace)

end Dispatcher

end TokenLint
