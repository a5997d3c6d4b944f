import TokenLint.Proofs.Rule.Builtin
import TokenLint.Proofs.Run.Contexts

/-!
# Fixing passes that change nothing

A fixing pass without a commit records what a pass that only reports records. The two are
followed side by side: as long as the fixing one has committed nothing it mirrors the
other, and the first fix that the built-in rules are offered commits, since no token is
touched yet and every edit is in range. From then on the number of commits stays positive.
-/

namespace TokenLint

/-- A fixing pass that has committed nothing beside a pass that only reports: what they have
recorded is the same, and no changeset or offer is open in either. -/
structure Pass.Mirrors (fixing reporting : Pass) : Prop where
  eq : fixing = { reporting with fixing := true }
  reports : reporting.fixing = false
  untouched : reporting.ledger = .empty reporting.stream.size

namespace Pass.Mirrors

variable {fixing reporting : Pass}

theorem start (stream : TokenStream) :
    (Pass.start stream true).Mirrors (Pass.start stream false) :=
  ⟨rfl, rfl, rfl⟩

theorem ledger_eq (mirrors : fixing.Mirrors reporting) :
    fixing.ledger = .empty reporting.stream.size := by
  rw [mirrors.eq]
  exact mirrors.untouched

theorem size_eq (mirrors : fixing.Mirrors reporting) (offer : Offer) :
    (fixing.ledger.offer offer).size = reporting.stream.size := by
  rw [mirrors.ledger_eq]
  exact Array.size_replicate

theorem staged_eq (mirrors : fixing.Mirrors reporting) (offer : Offer) :
    (fixing.ledger.offer offer).staged = none := by
  rw [mirrors.ledger_eq]
  rfl

theorem reports_eq (mirrors : fixing.Mirrors reporting) : fixing.reports = reporting.reports := by
  rw [mirrors.eq]

theorem accept (mirrors : fixing.Mirrors reporting) (key : ReportKey) (message : String)
    (severity : Severity) (fixable : Bool) :
    (fixing.accept key message severity fixable).1.Mirrors
        (reporting.accept key message severity fixable).1 ∧
      (fixing.accept key message severity fixable).2 =
        (reporting.accept key message severity fixable).2 := by
  refine ⟨⟨?_, ?_, ?_⟩, ?_⟩
  · rw [mirrors.eq]
    simp only [Pass.accept]
    split <;> rfl
  · rw [fixing_accept, mirrors.reports]
  · rw [ledger_accept, stream_accept, mirrors.untouched]
  · rw [mirrors.eq]
    simp only [Pass.accept]
    split <;> rfl

theorem betweenCalls (mirrors : fixing.Mirrors reporting) :
    fixing.betweenCalls.Mirrors reporting.betweenCalls := by
  refine ⟨?_, mirrors.reports, ?_⟩
  · rw [mirrors.eq]
    rfl
  · rw [Pass.betweenCalls, mirrors.untouched]
    rfl

/-- A report does the same to both passes, but for the offer that the fixing one may make. -/
theorem report (mirrors : fixing.Mirrors reporting) (ruleId : String) (made : Report) :
    (∃ error, fixing.report ruleId made = .error error ∧
        reporting.report ruleId made = .error error) ∨
      ∃ fixed reported, fixed.Mirrors reported ∧
        reporting.report ruleId made = .ok (reported, false) ∧
        (fixing.report ruleId made = .ok (fixed, false) ∨
          made.fixable = true ∧ ∃ offer, fixing.report ruleId made =
            .ok ({ fixed with ledger := fixed.ledger.offer offer }, true)) := by
  simp only [Pass.report, bind, Except.bind, pure, Except.pure]
  cases renderTemplate made.template made.arguments with
  | error error => exact .inl ⟨error, rfl, rfl⟩
  | ok message =>
      have accepted := mirrors.accept ⟨ruleId ++ "." ++ made.shortCode, made.index, ""⟩ message
        made.severity made.fixable
      have fixes : fixing.fixing = true := by rw [mirrors.eq]
      dsimp only
      revert accepted
      generalize fixing.accept _ message made.severity made.fixable = first
      generalize reporting.accept _ message made.severity made.fixable = second
      rcases first with ⟨fixed, number⟩
      rcases second with ⟨reported, _⟩
      rintro ⟨mirrored, rfl⟩
      refine .inr ⟨fixed, reported, mirrored, ?_⟩
      cases number with
      | none => exact ⟨rfl, .inl rfl⟩
      | some number =>
          simp only [mirrors.reports, fixes, Bool.and_false, Bool.and_true, Bool.false_eq_true,
            if_false, true_and]
          by_cases fixable : made.fixable = true
          · exact .inr ⟨fixable, ⟨number, ruleId ++ "." ++ made.shortCode⟩, if_pos fixable⟩
          · exact .inl (if_neg fixable)

end Pass.Mirrors

namespace Ledger

/-- Nothing clashes with an offer on an untouched ledger. -/
theorem clashing_empty (size : Nat) (edits : List Edit) : (empty size).clashing edits = [] := by
  rw [clashing_eq_nil_iff]
  intro edit _ _
  rw [isTouched, patch?_of_patches_eq_replicate rfl]
  rfl

/-- The first batch of a pass commits, unless it is empty. -/
theorem commit_empty (size : Nat) (edits : List Edit) (offer : Option Offer) :
    0 < ((empty size).commit edits offer).ledger.commitCount ∨
      (empty size).commit edits offer = ⟨empty size, true, .nothing⟩ := by
  by_cases none_staged : edits = []
  · subst none_staged
    exact .inr rfl
  · refine .inl ?_
    rw [commit_of_clear _ offer none_staged (clashing_empty size edits)]
    exact Nat.succ_pos _

end Ledger

/-- Two calls of a program that did the same to a fixing pass and to one that only reports. -/
structure RuleOutcome.Mirrors {α : Type} (fixing reporting : RuleOutcome α) : Prop where
  pass : fixing.state.pass.Mirrors reporting.state.pass
  memory_eq : fixing.state.memory = reporting.state.memory
  result_eq : fixing.result = reporting.result

/-- The first changeset of a fixing pass commits, unless it is empty and changes nothing. -/
theorem Pass.Mirrors.take_changeset {fixing reporting : Pass} (mirrors : fixing.Mirrors reporting)
    (edits : List Edit) (offer : Offer) :
    let offered := { fixing with ledger := fixing.ledger.offer offer }
    let after := offered.take
      (offered.ledger.rollback.clearOffer.commit edits offered.ledger.offered)
    0 < after.ledger.commitCount ∨ after = fixing := by
  dsimp only
  have cleared : (fixing.ledger.offer offer).rollback.clearOffer =
      .empty reporting.stream.size := by
    rw [mirrors.ledger_eq]
    rfl
  rw [cleared, ledger_take]
  rcases Ledger.commit_empty reporting.stream.size edits (fixing.ledger.offer offer).offered with
    committed | nothing
  · exact .inl committed
  · refine .inr ?_
    rw [nothing, ← mirrors.ledger_eq]
    rfl

theorem Pass.Mirrors.take_replacement {fixing reporting : Pass}
    (mirrors : fixing.Mirrors reporting) (edit : Edit) (offer : Offer) :
    0 < ((fixing.ledger.offer offer).commit [edit] (some offer)).ledger.commitCount := by
  have noClash : (fixing.ledger.offer offer).clashing [edit] = [] := by
    rw [mirrors.ledger_eq]
    exact Ledger.clashing_empty reporting.stream.size [edit]
  rw [Ledger.commit_of_clear _ _ (List.cons_ne_nil _ _) noClash]
  exact Nat.succ_pos _

/-- A program that proposes fixes either commits one in the fixing pass, or does the same to both
passes. -/
theorem RuleProgram.Proposes.run_mirrors {program : RuleProgram (Option Int)}
    {stream : TokenStream} {fixing reporting : Pass} (proposes : program.Proposes stream.Covers)
    (mirrors : fixing.Mirrors reporting) (stream_eq : reporting.stream = stream) (ruleId : String)
    (memory : Memory) :
    0 < (program.run ruleId ⟨fixing, memory⟩).state.pass.ledger.commitCount ∨
      (program.run ruleId ⟨fixing, memory⟩).Mirrors (program.run ruleId ⟨reporting, memory⟩) := by
  induction proposes generalizing fixing reporting with
  | done answer => exact .inr ⟨mirrors, rfl, rfl⟩
  | fail fault => exact .inr ⟨mirrors, rfl, rfl⟩
  | report unfixable _ ih =>
      rcases mirrors.report ruleId _ with ⟨error, failed, reportFailed⟩ |
        ⟨fixed, reported, mirrored, answered, offered | ⟨fixable, -⟩⟩
      · rw [run_report_error failed, run_report_error reportFailed]
        exact .inr ⟨mirrors, rfl, rfl⟩
      · rw [run_report_ok offered, run_report_ok answered]
        exact ih mirrored ((Pass.steps_report answered).stream_eq.trans stream_eq)
      · rw [unfixable] at fixable
        cases fixable
  | changeset answer batch fix leave =>
      rcases mirrors.report ruleId _ with ⟨error, failed, reportFailed⟩ |
        ⟨fixed, reported, mirrored, answered, offered | ⟨-, offer, offered⟩⟩
      · rw [run_report_error failed, run_report_error reportFailed]
        exact .inr ⟨mirrors, rfl, rfl⟩
      · rw [run_report_ok offered, run_report_ok answered, leave]
        exact .inr ⟨mirrored, rfl, rfl⟩
      · have inRange := (Pass.steps_report answered).stream_eq.trans stream_eq ▸ batch
        rw [run_report_ok offered, run_report_ok answered, fix, leave, run_changeTogether
          (fun edit member => mirrored.size_eq offer ▸ inRange edit member)
          (mirrored.staged_eq offer)]
        rcases mirrored.take_changeset _ offer with committed | unchanged
        · exact .inl committed
        · exact .inr ⟨unchanged.symm ▸ mirrored, rfl, rfl⟩
  | replacement answer batch fix leave =>
      rcases mirrors.report ruleId _ with ⟨error, failed, reportFailed⟩ |
        ⟨fixed, reported, mirrored, answered, offered | ⟨-, offer, offered⟩⟩
      · rw [run_report_error failed, run_report_error reportFailed]
        exact .inr ⟨mirrors, rfl, rfl⟩
      · rw [run_report_ok offered, run_report_ok answered, leave]
        exact .inr ⟨mirrored, rfl, rfl⟩
      · have inRange := (Pass.steps_report answered).stream_eq.trans stream_eq ▸ batch
        rw [run_report_ok offered, run_report_ok answered, fix, leave, run_replacement
          (mirrored.size_eq offer ▸ inRange _ (List.mem_singleton_self _))
          (mirrored.staged_eq offer)]
        refine .inl ?_
        simp only [run, Pass.ledger_take]
        exact mirrored.take_replacement _ offer

/-- A fixing pass at some point of the dispatch and a pass that only reports at the same point: they
have made the same calls with the same failures. -/
structure PassTrace.Mirrors (fixing reporting : PassTrace) : Prop where
  pass : fixing.pass.Mirrors reporting.pass
  calls_eq : fixing.calls = reporting.calls
  failures_eq : fixing.failures = reporting.failures

/-- What happens after a call commits nothing. -/
theorem RuleSlot.commitCount_visit (slot : RuleSlot) (index : Nat) (trace : PassTrace) :
    (slot.visit index trace).2.pass.ledger.commitCount =
      ((slot.rule.process trace.pass.stream index slot.options).run slot.rule.id
        ⟨trace.pass, slot.memory⟩).state.pass.ledger.commitCount := by
  simp only [visit]
  split
  · rfl
  · simp only [Pass.reportFailure, Pass.acceptInternal, Pass.ledger_accept]
    rfl

/-- A call of a built-in rule either commits in the fixing pass, or does the same to both passes. -/
theorem RuleSlot.visit_mirrors {slot : RuleSlot} {index : Nat} {fixing reporting : PassTrace}
    (builtin : slot.rule ∈ Rule.builtin) (bounded : reporting.pass.stream.Bounded)
    (inside : index < reporting.pass.stream.size) (mirrors : fixing.Mirrors reporting) :
    0 < (slot.visit index fixing).2.pass.ledger.commitCount ∨
      (slot.visit index fixing).1 = (slot.visit index reporting).1 ∧
        (slot.visit index fixing).2.Mirrors (slot.visit index reporting).2 := by
  have stream_eq : fixing.pass.stream = reporting.pass.stream := by rw [mirrors.pass.eq]
  have called := (Rule.proposes_of_mem_builtin builtin bounded inside slot.options).run_mirrors
    mirrors.pass rfl slot.rule.id slot.memory
  rw [commitCount_visit, stream_eq]
  refine called.imp_right fun same => ?_
  have between := same.pass.betweenCalls
  simp only [visit, stream_eq, same.memory_eq, same.result_eq, mirrors.calls_eq]
  split
  · exact ⟨rfl, between, rfl, mirrors.failures_eq⟩
  · exact ⟨rfl, (between.accept _ _ _ _).1, rfl, by simp only [mirrors.failures_eq]⟩

/-- The calls of built-in rules on a token either commit in the fixing pass, or do the same to both
passes. -/
theorem visitAll_mirrors {token : Token} {slots : List RuleSlot} {fixing reporting : PassTrace}
    (builtin : ∀ slot ∈ slots, slot.rule ∈ Rule.builtin) (bounded : reporting.pass.stream.Bounded)
    (inside : token.index < reporting.pass.stream.size) (mirrors : fixing.Mirrors reporting) :
    0 < (visitAll token fixing slots).2.pass.ledger.commitCount ∨
      (visitAll token fixing slots).1 = (visitAll token reporting slots).1 ∧
        (visitAll token fixing slots).2.Mirrors (visitAll token reporting slots).2 := by
  induction slots generalizing fixing reporting with
  | nil => exact .inr ⟨rfl, mirrors⟩
  | cons slot rest ih =>
      have restBuiltin : ∀ slot ∈ rest, slot.rule ∈ Rule.builtin := fun other member =>
        builtin other (List.mem_cons_of_mem _ member)
      by_cases wanted : slot.wants token
      · simp only [visitAll, wanted, if_true]
        rcases RuleSlot.visit_mirrors (builtin slot (List.mem_cons_self ..)) bounded inside mirrors
          with committed | ⟨slot_eq, visited⟩
        · exact .inl (Nat.lt_of_lt_of_le committed (steps_visitAll token rest _).commitCount_le)
        · have stream_eq := (slot.steps_visit token.index reporting).stream_eq
          have later := ih restBuiltin (stream_eq ▸ bounded) (stream_eq ▸ inside) visited
          exact later.imp_right fun same => ⟨by rw [slot_eq, same.1], same.2⟩
      · simp only [visitAll, wanted, Bool.false_eq_true, if_false]
        exact (ih restBuiltin bounded inside mirrors).imp_right fun same => ⟨by rw [same.1], same.2⟩

/-- A fixing pass of built-in rules without a commit reports what a pass without fixing reports. -/
theorem Dispatcher.reports_dispatch_of_unchanged {dispatcher : Dispatcher} {stream : TokenStream}
    (builtin : ∀ rule ∈ dispatcher.rules, rule ∈ Rule.builtin) (bounded : stream.Bounded)
    (unchanged : (dispatcher.dispatch stream true).2.pass.ledger.changed = false) :
    (dispatcher.dispatch stream true).2.pass.reports =
      (dispatcher.dispatch stream false).2.pass.reports := by
  let Related := fun fixing reporting : List RuleSlot × PassTrace =>
    reporting.2.pass.stream = stream ∧ (∀ slot ∈ reporting.1, slot.rule ∈ Rule.builtin) ∧
      (0 < fixing.2.pass.ledger.commitCount ∨
        fixing.1 = reporting.1 ∧ fixing.2.Mirrors reporting.2)
  have started : Related (dispatcher.slots, ⟨.start stream true, #[], #[]⟩)
      (dispatcher.slots, ⟨.start stream false, #[], #[]⟩) :=
    ⟨rfl, fun slot member => builtin _ (rule_mem_of_mem_slots member),
      .inr ⟨rfl, .start stream, rfl, rfl⟩⟩
  have visited : ∀ token ∈ stream.tokens.toList, ∀ fixing reporting, Related fixing reporting →
      Related (visitAll token fixing.2 fixing.1) (visitAll token reporting.2 reporting.1) := by
    rintro token member fixing reporting ⟨stream_eq, rules, related⟩
    refine ⟨?_, ?_, ?_⟩
    · rw [(steps_visitAll token reporting.1 reporting.2).stream_eq, stream_eq]
    · intro slot among
      rcases exists_slot_of_mem_visitAll among with ⟨before, earlier, same, -⟩
      exact same ▸ rules before earlier
    · rcases related with committed | ⟨slots_eq, mirrors⟩
      · exact .inl (Nat.lt_of_lt_of_le committed (steps_visitAll _ _ _).commitCount_le)
      · rw [slots_eq]
        exact visitAll_mirrors rules (stream_eq ▸ bounded) (stream_eq ▸ bounded.index_lt member)
          mirrors
  rcases relation_dispatch stream started visited with ⟨_, _, -, -, committed | ⟨-, mirrors⟩⟩
  · simp only [Ledger.changed, decide_eq_false_iff_not] at unchanged
    exact absurd committed unchanged
  · exact mirrors.pass.reports_eq

end TokenLint
