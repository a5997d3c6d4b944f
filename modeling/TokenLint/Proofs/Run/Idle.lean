import TokenLint.Proofs.Run.Contexts
import TokenLint.Proofs.Fix.Ledger

/-!
# Rules with nothing to do

A rule that does nothing about any token of a stream leaves every pass over it alone. Such
rules may be left out of a dispatcher, which makes the same pass without them.
-/

namespace TokenLint

/-- Whether a program ends at once. -/
def RuleProgram.isDone {α : Type} : RuleProgram α → Bool
  | .done _ => true
  | _ => false

/-- Whether a rule without options does nothing about the tokens of a stream. -/
def Rule.isIdle (rule : Rule) (stream : TokenStream) : Bool :=
  stream.tokens.toList.all fun token =>
    !rule.interest.contains token.kind || (rule.process stream token.index []).isDone

/-- Whether a rule has no options and nothing to do about a stream. -/
def RuleContext.Idle (context : RuleContext) (stream : TokenStream) : Prop :=
  context.rule.isIdle stream = true ∧ context.options = []

/-- Whether nothing is left open in a pass. -/
def Pass.Settled (pass : Pass) : Prop := pass.betweenCalls = pass

theorem Pass.settled_betweenCalls (pass : Pass) : pass.betweenCalls.Settled := rfl

theorem Pass.Settled.reportFailure {pass : Pass} (settled : pass.Settled) (failure : RuleFailure) :
    (pass.reportFailure failure).Settled := by
  have kept := congrArg Pass.ledger settled
  simp only [Pass.reportFailure, Pass.acceptInternal, Settled, betweenCalls, ledger_accept]
    at kept ⊢
  rw [kept, ← ledger_accept]

namespace RuleSlot

theorem settled_visit (slot : RuleSlot) (index : Nat) (trace : PassTrace) :
    (slot.visit index trace).2.pass.Settled := by
  simp only [visit]
  split
  · exact Pass.settled_betweenCalls _
  · exact (Pass.settled_betweenCalls _).reportFailure _

/-- A call depends on a trace only through its pass. -/
theorem visit_congr (slot : RuleSlot) (index : Nat) {trace other : PassTrace}
    (same : trace.pass = other.pass) :
    (slot.visit index trace).1 = (slot.visit index other).1 ∧
      (slot.visit index trace).2.pass = (slot.visit index other).2.pass := by
  simp only [visit, same]
  split <;> exact ⟨rfl, rfl⟩

theorem pass_visit_of_idle {slot : RuleSlot} {stream : TokenStream} {token : Token}
    {trace : PassTrace} (idle : slot.toRuleContext.Idle stream)
    (member : token ∈ stream.tokens.toList) (wanted : slot.wants token = true)
    (stream_eq : trace.pass.stream = stream) (settled : trace.pass.Settled) :
    (slot.visit token.index trace).2.pass = trace.pass := by
  have done := List.all_eq_true.mp idle.1 token member
  rw [(Bool.and_eq_true_iff.mp wanted).1, Bool.not_true, Bool.false_or] at done
  simp only [visit, stream_eq, idle.2]
  generalize slot.rule.process stream token.index [] = program at done ⊢
  cases program with
  | done answer => exact settled
  | _ => cases done

end RuleSlot

variable {stream : TokenStream} {token : Token}

theorem visitAll_append (first second : List RuleSlot) (trace : PassTrace) :
    visitAll token trace (first ++ second) =
      ((visitAll token trace first).1 ++
          (visitAll token (visitAll token trace first).2 second).1,
        (visitAll token (visitAll token trace first).2 second).2) := by
  induction first generalizing trace with
  | nil => rfl
  | cons slot rest ih => simp only [List.cons_append, visitAll, ih]

theorem settled_visitAll {slots : List RuleSlot} {trace : PassTrace}
    (settled : trace.pass.Settled) : (visitAll token trace slots).2.pass.Settled := by
  induction slots generalizing trace with
  | nil => exact settled
  | cons slot rest ih =>
      by_cases wanted : slot.wants token
      · simp only [visitAll, wanted, if_true]
        exact ih (slot.settled_visit token.index trace)
      · simp only [visitAll, wanted, Bool.false_eq_true, if_false]
        exact ih settled

/-- The call of a single rule depends on a trace only through its pass. -/
theorem visitAll_singleton_congr (slot : RuleSlot) {trace other : PassTrace}
    (same : trace.pass = other.pass) :
    ∃ visited, (visitAll token trace [slot]).1 = [visited] ∧
      (visitAll token other [slot]).1 = [visited] ∧
      (visitAll token trace [slot]).2.pass = (visitAll token other [slot]).2.pass := by
  by_cases wanted : slot.wants token
  · simp only [visitAll, wanted, if_true]
    rcases slot.visit_congr token.index same with ⟨slot_eq, pass_eq⟩
    exact ⟨_, rfl, by rw [slot_eq], pass_eq⟩
  · simp only [visitAll, wanted, Bool.false_eq_true, if_false]
    exact ⟨slot, rfl, rfl, same⟩

theorem idle_of_mem_visitAll {slots : List RuleSlot} {trace : PassTrace} {slot : RuleSlot}
    (idle : ∀ slot ∈ slots, slot.toRuleContext.Idle stream)
    (member : slot ∈ (visitAll token trace slots).1) : slot.toRuleContext.Idle stream := by
  rcases exists_slot_of_mem_visitAll member with ⟨before, among, rule_eq, options_eq⟩
  have before_idle := idle before among
  rw [RuleContext.Idle, rule_eq, options_eq] at before_idle
  exact before_idle

/-- Calls of idle rules leave the pass alone. -/
theorem pass_visitAll_of_idle {slots : List RuleSlot} {trace : PassTrace}
    (idle : ∀ slot ∈ slots, slot.toRuleContext.Idle stream)
    (member : token ∈ stream.tokens.toList) (stream_eq : trace.pass.stream = stream)
    (settled : trace.pass.Settled) : (visitAll token trace slots).2.pass = trace.pass := by
  induction slots generalizing trace with
  | nil => rfl
  | cons slot rest ih =>
      have restIdle : ∀ slot ∈ rest, slot.toRuleContext.Idle stream := fun other among =>
        idle other (List.mem_cons_of_mem _ among)
      by_cases wanted : slot.wants token
      · have same := RuleSlot.pass_visit_of_idle (idle slot (List.mem_cons_self ..)) member wanted
          stream_eq settled
        simp only [visitAll, wanted, if_true]
        exact (ih restIdle (same ▸ stream_eq) (same ▸ settled)).trans same
      · simp only [visitAll, wanted, Bool.false_eq_true, if_false]
        exact ih restIdle stream_eq settled

/-- A dispatcher whose rules are idle but for one makes the pass that this rule makes alone. -/
theorem Dispatcher.pass_dispatch_of_idle {before after : List RuleContext} {context : RuleContext}
    (idle : ∀ other ∈ before ++ after, other.Idle stream) (fixing : Bool) :
    ((⟨before ++ context :: after⟩ : Dispatcher).dispatch stream fixing).2.pass =
      ((⟨[context]⟩ : Dispatcher).dispatch stream fixing).2.pass := by
  let Related := fun all alone : List RuleSlot × PassTrace =>
    (∃ first slot second, all.1 = first ++ ([slot] ++ second) ∧ alone.1 = [slot] ∧
      (∀ other ∈ first, other.toRuleContext.Idle stream) ∧
      ∀ other ∈ second, other.toRuleContext.Idle stream) ∧
    all.2.pass = alone.2.pass ∧ all.2.pass.stream = stream ∧ all.2.pass.Settled
  have started : Related
      ((⟨before ++ context :: after⟩ : Dispatcher).slots, ⟨.start stream fixing, #[], #[]⟩)
      ((⟨[context]⟩ : Dispatcher).slots, ⟨.start stream fixing, #[], #[]⟩) := by
    have slot_idle : ∀ contexts : List RuleContext, (∀ other ∈ contexts, other.Idle stream) →
        ∀ slot ∈ contexts.map RuleContext.startPass, slot.toRuleContext.Idle stream := by
      intro contexts all slot member
      rcases List.mem_map.mp member with ⟨other, among, rfl⟩
      exact all other among
    refine ⟨⟨before.map RuleContext.startPass, context.startPass, after.map RuleContext.startPass,
      ?_, rfl, ?_, ?_⟩, rfl, rfl, rfl⟩
    · simp [slots]
    · exact slot_idle before fun other member => idle other (List.mem_append_left _ member)
    · exact slot_idle after fun other member => idle other (List.mem_append_right _ member)
  have visited : ∀ token ∈ stream.tokens.toList, ∀ all alone, Related all alone →
      Related (visitAll token all.2 all.1) (visitAll token alone.2 alone.1) := by
    rintro token member ⟨allSlots, all⟩ ⟨aloneSlots, alone⟩
      ⟨⟨first, slot, second, rfl, rfl, first_idle, second_idle⟩, pass_eq, stream_eq, settled⟩
    have first_eq := pass_visitAll_of_idle first_idle member stream_eq settled
    have first_settled : (visitAll token all first).2.pass.Settled := settled_visitAll settled
    rcases visitAll_singleton_congr slot (first_eq.trans pass_eq) with
      ⟨called, all_eq, alone_eq, called_eq⟩
    have called_stream : (visitAll token (visitAll token all first).2 [slot]).2.pass.stream =
        stream := by
      rw [(steps_visitAll _ _ _).stream_eq, first_eq, stream_eq]
    have called_settled : (visitAll token (visitAll token all first).2 [slot]).2.pass.Settled :=
      settled_visitAll first_settled
    have second_eq := pass_visitAll_of_idle second_idle member called_stream called_settled
    simp only [visitAll_append]
    refine ⟨⟨_, called, _, by rw [all_eq], alone_eq, fun _ => idle_of_mem_visitAll first_idle,
      fun _ => idle_of_mem_visitAll second_idle⟩, second_eq.trans called_eq, ?_, ?_⟩
    · rw [second_eq, called_stream]
    · rw [second_eq]
      exact called_settled
  rcases relation_dispatch stream started visited with ⟨_, _, -, pass_eq, -, -⟩
  exact pass_eq

end TokenLint
