import TokenLint.Proofs.Fix.Batch
import TokenLint.Proofs.Rule.Builtin
import TokenLint.Proofs.Run.Contexts

/-!
# What a pass can have committed

Where all rules of a dispatcher propose batches of some form, every commit of a pass is a
commit of such a batch. A property of the patches that these commits keep therefore holds
of the patches that the pass leaves behind.
-/

namespace TokenLint

/-- A pass over a stream between two calls, whose patches have a property. -/
structure Pass.Keeps (stream : TokenStream) (holds : Array (Option Patch) → Prop) (pass : Pass) :
    Prop where
  stream_eq : pass.stream = stream
  size_eq : pass.ledger.size = stream.size
  closed : pass.ledger.staged = none
  patches : holds pass.ledger.patches

/-- Whether commits of the batches that are allowed keep a property of the patches. -/
def TokenStream.KeptBy (stream : TokenStream) (allowed : List Edit → Prop)
    (holds : Array (Option Patch) → Prop) : Prop :=
  ∀ (ledger : Ledger) (edits : List Edit) (offer : Option Offer), ledger.size = stream.size →
    allowed edits → holds ledger.patches → holds (ledger.commit edits offer).ledger.patches

section Keeps

variable {stream : TokenStream} {allowed : List Edit → Prop}
  {holds : Array (Option Patch) → Prop} {pass : Pass}

namespace Pass.Keeps

theorem accept (keeps : pass.Keeps stream holds) (key : ReportKey) (message : String)
    (severity : Severity) (fixable : Bool) :
    (pass.accept key message severity fixable).1.Keeps stream holds := by
  rcases keeps with ⟨stream_eq, size_eq, closed, patches⟩
  refine ⟨?_, ?_, ?_, ?_⟩
  · rw [stream_accept, stream_eq]
  · rw [ledger_accept, size_eq]
  · rw [ledger_accept, closed]
  · rw [ledger_accept]
    exact patches

theorem report (keeps : pass.Keeps stream holds) {ruleId : String} {made : Report} {after : Pass}
    {fixNow : Bool} (reported : pass.report ruleId made = .ok (after, fixNow)) :
    after.Keeps stream holds ∧ (fixNow = true → made.fixable = true) := by
  simp only [Pass.report, bind, Except.bind, pure, Except.pure] at reported
  split at reported
  · cases reported
  · rename_i message rendered
    have accepted := keeps.accept ⟨ruleId ++ "." ++ made.shortCode, made.index, ""⟩ message
      made.severity made.fixable
    split at reported
    · rename_i next outcome
      rw [outcome] at accepted
      cases reported
      exact ⟨accepted, by simp⟩
    · rename_i next number outcome
      rw [outcome] at accepted
      rcases accepted with ⟨stream_eq, size_eq, closed, patches⟩
      split at reported
      · rename_i fixes
        cases reported
        exact ⟨⟨stream_eq, size_eq, closed, patches⟩, fun _ => (Bool.and_eq_true_iff.mp fixes).1⟩
      · cases reported
        exact ⟨⟨stream_eq, size_eq, closed, patches⟩, by simp⟩

theorem commit (keeps : pass.Keeps stream holds) (kept : stream.KeptBy allowed holds)
    {edits : List Edit} (batch : allowed edits) {ledger : Ledger} (offer : Option Offer)
    (patches_eq : ledger.patches = pass.ledger.patches) (closed : ledger.staged = none) :
    (pass.take (ledger.commit edits offer)).Keeps stream holds := by
  have size_eq : ledger.size = stream.size := by
    rw [Ledger.size, patches_eq]
    exact keeps.size_eq
  refine ⟨?_, ?_, ?_, ?_⟩
  · rw [stream_take, keeps.stream_eq]
  · rw [ledger_take, Ledger.size_commit, size_eq]
  · rw [ledger_take, Ledger.staged_commit, closed]
  · rw [ledger_take]
    exact kept ledger edits offer size_eq batch (patches_eq ▸ keeps.patches)

theorem betweenCalls (keeps : pass.Keeps stream holds) : pass.betweenCalls.Keeps stream holds :=
  ⟨keeps.stream_eq, keeps.size_eq, rfl, keeps.patches⟩

end Pass.Keeps

theorem RuleProgram.Proposes.run_keeps {program : RuleProgram (Option Int)}
    (proposes : program.Proposes allowed) (kept : stream.KeptBy allowed holds)
    (covered : ∀ edits, allowed edits → stream.Covers edits) (ruleId : String) (memory : Memory)
    (keeps : pass.Keeps stream holds) :
    (program.run ruleId ⟨pass, memory⟩).state.pass.Keeps stream holds := by
  induction proposes generalizing pass with
  | done answer => exact keeps
  | fail fault => exact keeps
  | @report made next unfixable rest ih =>
      cases reported : pass.report ruleId made with
      | error error =>
          rw [run_report_error reported]
          exact keeps
      | ok outcome =>
          rcases outcome with ⟨after, fixNow⟩
          rcases keeps.report reported with ⟨keeps, fixable⟩
          rw [run_report_ok reported]
          cases fixNow with
          | false => exact ih keeps
          | true =>
              rw [fixable rfl] at unfixable
              cases unfixable
  | @changeset made next edits answer batch fix leave =>
      cases reported : pass.report ruleId made with
      | error error =>
          rw [run_report_error reported]
          exact keeps
      | ok outcome =>
          rcases outcome with ⟨after, fixNow⟩
          rcases keeps.report reported with ⟨keeps, -⟩
          rw [run_report_ok reported]
          cases fixNow with
          | false =>
              rw [leave]
              exact keeps
          | true =>
              have inRange : ∀ edit ∈ edits, edit.index < after.ledger.size := fun edit member =>
                keeps.size_eq ▸ covered edits batch edit member
              rw [fix, run_changeTogether inRange keeps.closed]
              exact keeps.commit kept batch _ rfl rfl
  | @replacement made next index text answer batch fix leave =>
      cases reported : pass.report ruleId made with
      | error error =>
          rw [run_report_error reported]
          exact keeps
      | ok outcome =>
          rcases outcome with ⟨after, fixNow⟩
          rcases keeps.report reported with ⟨keeps, -⟩
          rw [run_report_ok reported]
          cases fixNow with
          | false =>
              rw [leave]
              exact keeps
          | true =>
              have inRange : index < after.ledger.size :=
                keeps.size_eq ▸ covered _ batch _ (List.mem_singleton_self _)
              rw [fix, run_replacement inRange keeps.closed]
              exact keeps.commit kept batch _ rfl keeps.closed

/-- Whether a rule proposes only batches that are allowed, on all tokens that it asks for and with
any options. -/
def Rule.ProposesOn (rule : Rule) (stream : TokenStream) (allowed : List Edit → Prop) : Prop :=
  ∀ token ∈ stream.tokens.toList, rule.interest.contains token.kind = true →
    ∀ options, (rule.process stream token.index options).Proposes allowed

theorem RuleSlot.visit_keeps {slot : RuleSlot} {token : Token} {trace : PassTrace}
    (proposes : slot.rule.ProposesOn stream allowed) (kept : stream.KeptBy allowed holds)
    (covered : ∀ edits, allowed edits → stream.Covers edits)
    (member : token ∈ stream.tokens.toList) (wanted : slot.wants token = true)
    (keeps : trace.pass.Keeps stream holds) :
    (slot.visit token.index trace).2.pass.Keeps stream holds := by
  have interested : slot.rule.interest.contains token.kind = true :=
    (Bool.and_eq_true_iff.mp wanted).1
  have proposed := proposes token member interested slot.options
  have called := (proposed.run_keeps kept covered slot.rule.id slot.memory keeps).betweenCalls
  simp only [visit, keeps.stream_eq]
  split
  · exact called
  · exact called.accept _ _ _ _

theorem visitAll_keeps {token : Token} {slots : List RuleSlot} {trace : PassTrace}
    (proposes : ∀ slot ∈ slots, slot.rule.ProposesOn stream allowed)
    (kept : stream.KeptBy allowed holds) (covered : ∀ edits, allowed edits → stream.Covers edits)
    (member : token ∈ stream.tokens.toList) (keeps : trace.pass.Keeps stream holds) :
    (visitAll token trace slots).2.pass.Keeps stream holds := by
  induction slots generalizing trace with
  | nil => exact keeps
  | cons slot rest ih =>
      have restProposes : ∀ slot ∈ rest, slot.rule.ProposesOn stream allowed := fun other among =>
        proposes other (List.mem_cons_of_mem _ among)
      by_cases wanted : slot.wants token
      · simp only [visitAll, wanted, if_true]
        exact ih restProposes (RuleSlot.visit_keeps (proposes slot (List.mem_cons_self ..)) kept
          covered member wanted keeps)
      · simp only [visitAll, wanted, Bool.false_eq_true, if_false]
        exact ih restProposes keeps

/-- A property of the patches that the proposed batches keep holds at the end of a pass. -/
theorem Dispatcher.dispatch_keeps {dispatcher : Dispatcher}
    (proposes : ∀ rule ∈ dispatcher.rules, rule.ProposesOn stream allowed)
    (kept : stream.KeptBy allowed holds) (covered : ∀ edits, allowed edits → stream.Covers edits)
    (started : holds (Array.replicate stream.size none)) (fixing : Bool) :
    (dispatcher.dispatch stream fixing).2.pass.Keeps stream holds := by
  let Kept := fun (slots : List RuleSlot) (trace : PassTrace) =>
    (∀ slot ∈ slots, slot.rule.ProposesOn stream allowed) ∧ trace.pass.Keeps stream holds
  have start : Kept dispatcher.slots ⟨.start stream fixing, #[], #[]⟩ := by
    refine ⟨fun slot member => proposes _ (rule_mem_of_mem_slots member), rfl, ?_, rfl, started⟩
    exact Array.size_replicate
  have visited : ∀ token ∈ stream.tokens.toList, ∀ slots trace, Kept slots trace →
      Kept (visitAll token trace slots).1 (visitAll token trace slots).2 := by
    rintro token member slots trace ⟨proposed, keeps⟩
    refine ⟨?_, visitAll_keeps proposed kept covered member keeps⟩
    intro slot among
    rcases exists_slot_of_mem_visitAll among with ⟨before, earlier, same, -⟩
    exact same ▸ proposed before earlier
  rcases dispatcher.invariant_dispatch stream fixing start visited with ⟨slots, -, -, keeps⟩
  exact keeps

end Keeps

end TokenLint
