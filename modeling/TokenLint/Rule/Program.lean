import TokenLint.Diagnostic.Pass
import TokenLint.Number.Numeral

/-!
# Rule programs

What a rule does about a token is a program over a fixed set of operations: report,
edit the source in changesets, look at the pass, and remember something for a later
token. A rule can act on a pass only through these, so whatever holds of every
operation holds of every rule.
-/

namespace TokenLint

/-- What a rule can fail with. -/
inductive RuleFault where
  | changeset (error : ChangesetError)
  | template (error : TemplateError)
  | numeral (digits : Nat)
  | notOrdered (operator left right : String)
  | raised (label message : String)
  deriving DecidableEq

namespace RuleFault

/-- The class of a failure. -/
def label : RuleFault → String
  | changeset _ => "ChangesetError"
  | template error => error.label
  | numeral _ => "ValueError"
  | notOrdered .. => "TypeError"
  | raised label _ => label

/-- The wording of a failure. -/
def message : RuleFault → String
  | changeset error => error.message
  | template error => error.message
  | numeral digits => NumeralError.tooLongMessage digits
  | notOrdered operator left right =>
    "'" ++ operator ++ "' not supported between instances of '" ++ left ++ "' and '" ++ right ++ "'"
  | raised _ message => message

end RuleFault

/-- What a rule remembers from one token to a later one of the same pass. -/
abbrev Memory := Table

namespace Memory

/-- The number under a key, zero at first. -/
def count (memory : Memory) (key : String) : Nat :=
  match memory.get? key with
  | some (.int number) => number.toNat
  | _ => 0

/-- Adds one to the number under a key. -/
def tally (memory : Memory) (key : String) : Memory :=
  memory.set key (.int (memory.count key + 1))

end Memory

/-- A rule's actions on a pass, ending in a result. -/
inductive RuleProgram (α : Type) where
  | done (result : α)
  | fail (fault : RuleFault)
  | report (report : Report) (next : Bool → RuleProgram α)
  | begin (next : RuleProgram α)
  | finish (next : Bool → RuleProgram α)
  | rollback (next : RuleProgram α)
  | edit (place : EditPlace) (index : Int) (text : String) (next : Bool → RuleProgram α)
  | inspect (next : Pass → RuleProgram α)
  | consult (next : Memory → RuleProgram α)
  | remember (memory : Memory) (next : RuleProgram α)

namespace RuleProgram

/-- One program after another. -/
def bind {α β : Type} : RuleProgram α → (α → RuleProgram β) → RuleProgram β
  | done result, next => next result
  | fail fault, _ => fail fault
  | report made rest, next => report made fun fixNow => (rest fixNow).bind next
  | begin rest, next => begin (rest.bind next)
  | finish rest, next => finish fun accepted => (rest accepted).bind next
  | rollback rest, next => rollback (rest.bind next)
  | edit place index text rest, next =>
    edit place index text fun accepted => (rest accepted).bind next
  | inspect rest, next => inspect fun pass => (rest pass).bind next
  | consult rest, next => consult fun memory => (rest memory).bind next
  | remember memory rest, next => remember memory (rest.bind next)

instance : Monad RuleProgram where
  pure := done
  bind := bind

/-- Reports, and tells whether to fix the problem now. -/
def say (made : Report) : RuleProgram Bool := report made done

/-- Begins a changeset. -/
def openChangeset : RuleProgram Unit := begin (done ())

/-- Commits the open changeset. -/
def closeChangeset : RuleProgram Bool := finish done

/-- Drops the changeset that is open. -/
def discardChangeset : RuleProgram Unit := rollback (done ())

/-- Changes a token; the answer tells whether the change was accepted. -/
def change (place : EditPlace) (index : Int) (text : String) : RuleProgram Bool :=
  edit place index text done

/-- Makes edits one after the other. -/
def changeAll : List Edit → RuleProgram Unit
  | [] => done ()
  | first :: rest => edit first.place first.index first.text fun _ => changeAll rest

/-- Makes edits in one changeset. -/
def changeTogether (edits : List Edit) : RuleProgram Unit :=
  begin ((changeAll edits).bind fun _ => finish fun _ => done ())

/-- The number that the rule remembers under a key. -/
def counted (key : String) : RuleProgram Nat := consult fun memory => done (memory.count key)

/-- Adds one to a number that the rule remembers. -/
def tally (key : String) : RuleProgram Unit :=
  consult fun memory => remember (memory.tally key) (done ())

end RuleProgram

/-- What a program works on: the pass, and what its rule remembers. -/
structure RuleState where
  pass : Pass
  memory : Memory

/-- The outcome of a program: the state it leaves, also when it failed, and its result. -/
structure RuleOutcome (α : Type) where
  state : RuleState
  result : Except RuleFault α

namespace RuleProgram

/-- Runs a program of the rule with the given identifier. -/
def run {α : Type} (ruleId : String) : RuleProgram α → RuleState → RuleOutcome α
  | done result, state => ⟨state, .ok result⟩
  | fail fault, state => ⟨state, .error fault⟩
  | report made next, state =>
    match state.pass.report ruleId made with
    | .ok (pass, fixNow) => (next fixNow).run ruleId { state with pass }
    | .error error => ⟨state, .error (.template error)⟩
  | begin next, state =>
    match state.pass.ledger.begin with
    | .ok ledger => next.run ruleId { state with pass := { state.pass with ledger } }
    | .error error => ⟨state, .error (.changeset error)⟩
  | finish next, state =>
    match state.pass.ledger.finish with
    | .ok commitment =>
      (next commitment.accepted).run ruleId { state with pass := state.pass.take commitment }
    | .error error => ⟨state, .error (.changeset error)⟩
  | rollback next, state =>
    next.run ruleId { state with
      pass := { state.pass with ledger := state.pass.ledger.rollback } }
  | edit place index text next, state =>
    match state.pass.ledger.edit place index text with
    | .ok commitment =>
      (next commitment.accepted).run ruleId { state with pass := state.pass.take commitment }
    | .error error => ⟨state, .error (.changeset error)⟩
  | inspect next, state => (next state.pass).run ruleId state
  | consult next, state => (next state.memory).run ruleId state
  | remember memory next, state => next.run ruleId { state with memory }

end RuleProgram

end TokenLint
