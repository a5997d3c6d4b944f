import TokenLint.Run.Dispatch
import Mathlib.Logic.Relation

/-!
# What can happen to a pass

A rule acts on a pass only through the operations of its program, and the dispatcher
adds two of its own: it clears what a call leaves open, and it reports a failed call.
`Pass.Step` lists them all. Every pass of a dispatcher is reached from its start by such
steps, so an invariant of passes needs one case for each operation and no look at the
dispatcher.
-/

namespace TokenLint

namespace Pass

/-- What one operation can make of a pass. -/
inductive Step : Pass → Pass → Prop where
  | accept (pass : Pass) (key : ReportKey) (message : String) (severity : Severity)
      (fixable : Bool) : Step pass (pass.accept key message severity fixable).1
  | offer (pass : Pass) (offer : Offer) :
      Step pass { pass with ledger := pass.ledger.offer offer }
  | clearOffer (pass : Pass) : Step pass { pass with ledger := pass.ledger.clearOffer }
  | begin {pass : Pass} {ledger : Ledger} (opened : pass.ledger.begin = .ok ledger) :
      Step pass { pass with ledger }
  | rollback (pass : Pass) : Step pass { pass with ledger := pass.ledger.rollback }
  | finish {pass : Pass} {commitment : Commitment}
      (closed : pass.ledger.finish = .ok commitment) : Step pass (pass.take commitment)
  | edit {pass : Pass} {place : EditPlace} {index : Int} {text : String}
      {commitment : Commitment} (edited : pass.ledger.edit place index text = .ok commitment) :
      Step pass (pass.take commitment)

/-- Any number of operations on a pass. -/
abbrev Steps : Pass → Pass → Prop := Relation.ReflTransGen Step

/-- A report is accepted and then perhaps offered for fixing. -/
theorem steps_report {pass after : Pass} {ruleId : String} {made : Report} {fixNow : Bool}
    (reported : pass.report ruleId made = .ok (after, fixNow)) : Steps pass after := by
  simp only [report, bind, Except.bind, pure, Except.pure] at reported
  split at reported
  · cases reported
  · rename_i message rendered
    have accepted := Step.accept pass ⟨ruleId ++ "." ++ made.shortCode, made.index, ""⟩ message
      made.severity made.fixable
    split at reported
    · rename_i next outcome
      rw [outcome] at accepted
      cases reported
      exact .single accepted
    · rename_i next number outcome
      rw [outcome] at accepted
      split at reported
      · cases reported
        exact .tail (.single accepted) (.offer _ _)
      · cases reported
        exact .single accepted

/-- What a call leaves open is cleared by two operations. -/
theorem steps_betweenCalls (pass : Pass) : Steps pass pass.betweenCalls :=
  .tail (.single (.rollback pass)) (.clearOffer _)

/-- The report of a failed call is one operation. -/
theorem steps_reportFailure (pass : Pass) (failure : RuleFailure) :
    Steps pass (pass.reportFailure failure) :=
  .single (.accept pass _ _ _ _)

end Pass

/-- A rule's program does nothing to the pass but operations. -/
theorem RuleProgram.steps_run {α : Type} (ruleId : String) (program : RuleProgram α)
    (state : RuleState) : Pass.Steps state.pass (program.run ruleId state).state.pass := by
  induction program generalizing state with
  | done result => exact .refl
  | fail fault => exact .refl
  | report made next ih =>
      simp only [run]
      split
      · rename_i pass fixNow reported
        exact (Pass.steps_report reported).trans (ih fixNow { state with pass })
      · exact .refl
  | begin next ih =>
      simp only [run]
      split
      · rename_i ledger opened
        exact .head (.begin opened) (ih { state with pass := { state.pass with ledger } })
      · exact .refl
  | finish next ih =>
      simp only [run]
      split
      · rename_i commitment closed
        exact .head (.finish closed) (ih _ { state with pass := state.pass.take commitment })
      · exact .refl
  | rollback next ih =>
      exact .head (.rollback state.pass)
        (ih { state with pass := { state.pass with ledger := state.pass.ledger.rollback } })
  | edit place index text next ih =>
      simp only [run]
      split
      · rename_i commitment edited
        exact .head (.edit edited) (ih _ { state with pass := state.pass.take commitment })
      · exact .refl
  | inspect next ih => exact ih state.pass state
  | consult next ih => exact ih state.memory state
  | remember memory next ih => exact ih { state with memory }

/-- A call of a rule does nothing to the pass but operations. -/
theorem RuleSlot.steps_visit (slot : RuleSlot) (index : Nat) (trace : PassTrace) :
    Pass.Steps trace.pass (slot.visit index trace).2.pass := by
  have called := RuleProgram.steps_run slot.rule.id
    (slot.rule.process trace.pass.stream index slot.options) ⟨trace.pass, slot.memory⟩
  have cleared := called.trans (Pass.steps_betweenCalls _)
  simp only [visit]
  split
  · exact cleared
  · exact cleared.trans (Pass.steps_reportFailure _ _)

/-- The calls on one token do nothing to the pass but operations. -/
theorem steps_visitAll (token : Token) (slots : List RuleSlot) (trace : PassTrace) :
    Pass.Steps trace.pass (visitAll token trace slots).2.pass := by
  induction slots generalizing trace with
  | nil => exact .refl
  | cons slot rest ih =>
      by_cases wanted : slot.wants token
      · simp only [visitAll, wanted, if_true]
        exact (slot.steps_visit token.index trace).trans (ih _)
      · simp only [visitAll, wanted, Bool.false_eq_true, if_false]
        exact ih trace

namespace Dispatcher

variable (stream : TokenStream)

/-- What holds at the start of a pass and is kept by the calls on each token holds at its end. -/
theorem invariant_dispatch (dispatcher : Dispatcher) (fixing : Bool)
    {motive : List RuleSlot → PassTrace → Prop}
    (started : motive dispatcher.slots ⟨.start stream fixing, #[], #[]⟩)
    (visited : ∀ token ∈ stream.tokens.toList, ∀ slots trace, motive slots trace →
      motive (visitAll token trace slots).1 (visitAll token trace slots).2) :
    ∃ slots, (dispatcher.dispatch stream fixing).1 = ⟨slots.map RuleSlot.toRuleContext⟩ ∧
      motive slots (dispatcher.dispatch stream fixing).2 := by
  have walked := List.foldlRecOn
    (motive := fun state : List RuleSlot × PassTrace => motive state.1 state.2)
    (b := (dispatcher.slots, ⟨.start stream fixing, #[], #[]⟩)) stream.tokens.toList
    (fun state token => visitAll token state.2 state.1) started
    fun state kept token member => visited token member state.1 state.2 kept
  exact ⟨_, rfl, walked⟩

/-- Two passes over a stream that are related at the start, and stay so under the calls on each
token, are related at their end. -/
theorem relation_dispatch {first second : Dispatcher} {firstFixing secondFixing : Bool}
    {related : List RuleSlot × PassTrace → List RuleSlot × PassTrace → Prop}
    (started : related (first.slots, ⟨.start stream firstFixing, #[], #[]⟩)
      (second.slots, ⟨.start stream secondFixing, #[], #[]⟩))
    (visited : ∀ token ∈ stream.tokens.toList, ∀ one other, related one other →
      related (visitAll token one.2 one.1) (visitAll token other.2 other.1)) :
    ∃ firstSlots secondSlots, related (firstSlots, (first.dispatch stream firstFixing).2)
      (secondSlots, (second.dispatch stream secondFixing).2) :=
  ⟨_, _, List.foldl_rel started visited⟩

/-- Every pass of a dispatcher is reached from its start by operations. -/
theorem steps_dispatch (dispatcher : Dispatcher) (fixing : Bool) :
    Pass.Steps (.start stream fixing) (dispatcher.dispatch stream fixing).2.pass := by
  have walked := dispatcher.invariant_dispatch stream fixing
    (motive := fun _ trace => Pass.Steps (.start stream fixing) trace.pass) .refl
    fun token _ slots trace steps => steps.trans (steps_visitAll token slots trace)
  rcases walked with ⟨-, -, steps⟩
  exact steps

end Dispatcher

end TokenLint
